import FlightBus.Frame.Content
import FlightBus.Frame.Packet
import FlightBus.Message.Flight
import FlightBus.Proofs.Wire.Fields
import Mathlib.Tactic.Use

/-!
# Reading what was written

A payload is sent without its trailing zeros and read as if it were continued by zeros, so
that the full payload is what the reader sees.  A format is faithful if its reader gives a
value back from the full payload of the value.  The formats of the flight dialect are
faithful, so a frame of one of its messages holds the message, bit for bit.
-/

namespace FlightBus

/-! ### Trailing zeros -/

/-- The bytes of a payload are the significant ones and zeros. -/
theorem exists_significant (payload : List UInt8) :
  ∃ front zeros, payload = front ++ List.replicate zeros 0 ∧
    front.length = significantLength payload
  := by
  have hzeros : payload.reverse.takeWhile (· = 0) =
      List.replicate (payload.reverse.takeWhile (· = 0)).length 0 := by
    apply List.eq_replicate_iff.mpr
    constructor
    · rfl
    · intro b hb
      simpa using List.all_eq_true.mp List.all_takeWhile b hb
  use (payload.reverse.dropWhile (· = 0)).reverse,
    (payload.reverse.takeWhile (· = 0)).length
  constructor
  · rw [← List.reverse_replicate, ← hzeros, ← List.reverse_append,
      List.takeWhile_append_dropWhile, List.reverse_reverse]
  · apply List.length_reverse

/-- The bytes that are not sent are zeros. -/
theorem drop_sentLength (payload : List UInt8) :
  payload.drop (sentLength payload) =
    List.replicate (payload.length - sentLength payload) 0
  := by
  obtain ⟨front, zeros, hpayload, hfront⟩ := exists_significant payload
  have hlength := congrArg List.length hpayload
  rw [List.length_append, List.length_replicate] at hlength
  have hle : front.length ≤ sentLength payload := by
    rw [sentLength, ← hfront]
    omega
  conv =>
    lhs
    rw [hpayload, List.drop_append, List.drop_eq_nil_of_le (hpayload ▸ hle), List.nil_append,
      List.drop_replicate]
  congr 1
  rw [← hpayload]
  omega

/-! ### Readers -/

/-- What is sent of a payload is seen as the full payload. -/
theorem PayloadReader.sees_take_sentLength (payload : List UInt8) :
  Sees ⟨payload.take (sentLength payload), 0⟩ payload
  := by
  have hsent := sentLength_le payload
  rw [Sees, takeBytes, List.drop_zero, List.take_of_length_le (List.length_take_le' _ _),
    List.length_take_of_le hsent, ← drop_sentLength]
  apply List.take_append_drop

/-- A scalar that is seen is the one that is read, and what follows it is seen then. -/
theorem FieldReader.scalar_bind_of_sees {α : Type} {kind : ScalarKind} {value : kind.Value}
    (next : kind.Value → FieldReader α) {reader : PayloadReader} {bytes : List UInt8}
    (h : reader.Sees (kind.encode value ++ bytes)) :
  (FieldReader.scalar kind >>= next) reader = next value (reader.skip kind.width) ∧
    (reader.skip kind.width).Sees bytes
  := by
  obtain ⟨hscalar, hrest⟩ := PayloadReader.sees_append h
  rw [PayloadReader.Sees, ScalarKind.length_encode] at hscalar
  rw [ScalarKind.length_encode] at hrest
  have htake : reader.takeScalar kind = (value, reader.skip kind.width) := by
    change (kind.decode (reader.takeBytes kind.width).1, reader.skip kind.width) = _
    rw [hscalar, ScalarKind.decode_encode]
  refine ⟨?_, hrest⟩
  change next (reader.takeScalar kind).1 (reader.takeScalar kind).2 = _
  rw [htake]

/-- A field reader reads a value from the given bytes and leaves those behind them. -/
def Reads {α : Type} (read : FieldReader α) (bytes : List UInt8) (value : α) : Prop :=
  ∀ reader : PayloadReader, reader.Sees bytes →
    read reader = .ok (value, reader.skip bytes.length)

namespace Reads

variable {α β : Type}

theorem pure (value : α) :
  Reads (Pure.pure value) [] value
  := by
  intro reader hreader
  rfl

/-- A scalar is read back, and what follows it is read from what follows it. -/
theorem scalar {kind : ScalarKind} {value : kind.Value} {next : kind.Value → FieldReader α}
    {bytes : List UInt8} {result : α} (h : Reads (next value) bytes result) :
  Reads (FieldReader.scalar kind >>= next) (kind.encode value ++ bytes) result
  := by
  intro reader hreader
  obtain ⟨hnext, hrest⟩ := FieldReader.scalar_bind_of_sees next hreader
  rw [hnext, h _ hrest, List.length_append, ScalarKind.length_encode, PayloadReader.skip,
    PayloadReader.skip, Nat.add_assoc]
  rfl

/-- A value that a field may hold is passed on. -/
theorem require {value : β} {value? : Option β} {next : β → FieldReader α}
    {bytes : List UInt8} {result : α} (hvalue : value? = some value)
    (h : Reads (next value) bytes result) :
  Reads (FieldReader.require value? >>= next) bytes result
  := by
  subst hvalue
  apply h

end Reads

namespace Format

variable {α : Type} {format : Format α}

/-- The reader of a format gives every value back from its full payload. -/
def Faithful (format : Format α) : Prop :=
  ∀ value, Reads format.read (format.fullPayload value) value

/-- What is sent of a payload is parsed as the value. -/
theorem Faithful.parse_payload (faithful : format.Faithful) (value : α) :
  format.parse (format.payload value).bytes = .ok value
  := by
  have hread := faithful value _ (PayloadReader.sees_take_sentLength (format.fullPayload value))
  rw [parse]
  change (format.read ⟨(format.fullPayload value).take _, 0⟩).map Prod.fst = _
  rw [hread]
  rfl

/-- The frame of a value holds the value. -/
theorem Faithful.decode_frame (faithful : format.Faithful) (value : α) (system : SystemId)
    (component : ComponentId) (sequence : UInt8) :
  format.decode (format.frame value system component sequence) = .ok value
  := by
  have hlength : ¬ (format.payload value).bytes.length > format.maxLength := by
    apply Nat.not_lt_of_le
    rw [← format.length_fullPayload value]
    apply List.length_take_le'
  have hparse := faithful.parse_payload value
  rw [decode]
  change (if format.id ≠ format.id then _
    else if (format.payload value).bytes.length > format.maxLength then _
    else (format.parse (format.payload value).bytes).mapError DecodeFailure.payload) = _
  rw [if_neg (fun h => h rfl), if_neg hlength, hparse]
  rfl

end Format

/-! ### The flight dialect -/

theorem Heartbeat.faithful_format :
  Heartbeat.format.Faithful
  := by
  intro m
  apply Reads.scalar
  apply Reads.scalar
  apply Reads.scalar
  apply Reads.scalar
  apply Reads.scalar
  apply Reads.require (SystemStatus.ofByte?_toByte m.systemStatus)
  apply Reads.scalar
  apply Reads.pure

theorem LinkTest.faithful_format :
  LinkTest.format.Faithful
  := by
  intro m
  apply Reads.scalar
  apply Reads.scalar
  apply Reads.pure

theorem ImuSample.faithful_format :
  ImuSample.format.Faithful
  := by
  intro m
  apply Reads.scalar
  apply Reads.scalar
  apply Reads.scalar
  apply Reads.scalar
  apply Reads.scalar
  apply Reads.scalar
  apply Reads.scalar
  apply Reads.scalar
  apply Reads.require (ImuUnit.ofByte?_toByte m.imu)
  apply Reads.pure

theorem ServoCommand.faithful_format :
  ServoCommand.format.Faithful
  := by
  intro m
  apply Reads.scalar
  apply Reads.scalar
  apply Reads.scalar
  apply Reads.scalar
  apply Reads.scalar
  apply Reads.pure

/-- The formats of the flight dialect are faithful. -/
theorem flight.faithful_format (kind : flight.Kind) :
  (flight.format kind).Faithful
  := by
  cases kind with
  | heartbeat => apply Heartbeat.faithful_format
  | linkTest => apply LinkTest.faithful_format
  | imu => apply ImuSample.faithful_format
  | servo => apply ServoCommand.faithful_format

end FlightBus

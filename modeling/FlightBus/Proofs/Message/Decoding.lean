import FlightBus.Proofs.Frame.Reencoding
import FlightBus.Proofs.Message.Reading
import Mathlib.Data.List.DropRight

/-!
# What frames hold

A payload may be cut anywhere behind its last significant byte, in the middle of a field too,
and is continued by zeros when it is read.  So what a frame holds depends on the full payload
only, of which there are two sorts: those of a value, which is then read, and those with a
byte in the place of an enumeration that is no number of it, which are refused.

A format is exact if this is so.  Encoding and decoding are then inverse to each other, up to
trailing zeros.  The formats of the flight dialect are exact.
-/

namespace FlightBus

/-! ### Trailing zeros -/

/-- The bytes of a payload without the trailing zeros.  If nothing is left of it, there is one
zero in its place. -/
def trimmed (payload : List UInt8) : List UInt8 :=
  if payload.rdropWhile (· = 0) = [] then [0] else payload.rdropWhile (· = 0)

theorem length_rdropWhile_zero (payload : List UInt8) :
  (payload.rdropWhile (· = 0)).length = significantLength payload
  := by
  rw [List.rdropWhile, List.length_reverse, significantLength]

theorem take_significantLength (payload : List UInt8) :
  payload.take (significantLength payload) = payload.rdropWhile (· = 0)
  := by
  rw [← length_rdropWhile_zero]
  exact (List.prefix_iff_eq_take.mp (List.rdropWhile_prefix _ _)).symm

/-- What is sent of a payload is the payload without the trailing zeros. -/
theorem take_sentLength {payload : List UInt8} (h : payload ≠ []) :
  payload.take (sentLength payload) = trimmed payload
  := by
  have hpos := List.length_pos_iff.mpr h
  have hlength := length_rdropWhile_zero payload
  have hle := (List.rdropWhile_prefix (· = 0) payload).length_le
  rw [trimmed, sentLength, ← hlength]
  split
  · rename_i hzero
    rw [hzero, List.length_nil, Nat.max_eq_right (Nat.zero_le 1), Nat.min_eq_left hpos]
    obtain ⟨b, bytes, rfl⟩ := List.exists_cons_of_ne_nil h
    have hb := List.rdropWhile_eq_nil_iff.mp hzero b List.mem_cons_self
    rw [List.take_succ_cons, List.take_zero, of_decide_eq_true hb]
  · rename_i hsome
    have hsome := List.length_pos_iff.mpr hsome
    rw [Nat.max_eq_left hsome, Nat.min_eq_left hle, hlength, take_significantLength]

/-- Zeros behind a payload make no difference to its significant bytes. -/
theorem trimmed_append_zeros (payload : List UInt8) (zeros : Nat) :
  trimmed (payload ++ List.replicate zeros 0) = trimmed payload
  := by
  have hdrop : (payload ++ List.replicate zeros 0).rdropWhile (· = 0) =
      payload.rdropWhile (· = 0) := by
    induction zeros with
    | zero => rw [List.replicate_zero, List.append_nil]
    | succ zeros ih =>
        rw [List.replicate_succ', ← List.append_assoc,
          List.rdropWhile_concat_pos _ _ _ (by simp), ih]
  rw [trimmed, trimmed, hdrop]

/-! ### Writing fields one by one -/

namespace PayloadWriter

/-- The writer after fields were put one behind the other, if there is room for them. -/
def putAll? (writer : PayloadWriter) (fields : List Field) : Option PayloadWriter :=
  fields.foldlM put? writer

/-- Fields are put behind the bytes in a buffer if there is room for all of them. -/
theorem putAll?_filled {buffer bytes : List UInt8}
    (h : bytes.length ≤ buffer.length) (fields : List Field) :
  (filled buffer bytes).putAll? fields =
    if bytes.length + (Field.encodeAll fields).length ≤ buffer.length then
      some (filled buffer (bytes ++ Field.encodeAll fields))
    else
      none
  := by
  induction fields generalizing bytes with
  | nil =>
      rw [Field.encodeAll, List.flatMap_nil, List.append_nil, List.length_nil, Nat.add_zero,
        if_pos h]
      rfl
  | cons field fields ih =>
      change ((filled buffer bytes).putBytes? field.encode).bind
        (fun writer => writer.putAll? fields) = _
      have hall : Field.encodeAll (field :: fields) = field.encode ++ Field.encodeAll fields :=
        List.flatMap_cons
      rw [putBytes?_filled h, hall, List.length_append, ← Nat.add_assoc, ← List.append_assoc]
      split
      · rename_i hfits
        rw [← List.length_append] at hfits ⊢
        apply ih hfits
      · rename_i hnot
        rw [if_neg (fun hfits => hnot (Nat.le_of_add_right_le hfits))]
        rfl

end PayloadWriter

/-! ### Reading every scalar -/

namespace ScalarKind

theorem toBits_ofBits (kind : ScalarKind) {n : Nat} (h : n < LittleEndian.bound kind.width) :
  kind.toBits (kind.ofBits n) = n
  := by
  cases kind <;> simp [ofBits, toBits] <;> exact h

/-- The bytes of a scalar that was read are written again. -/
theorem encode_decode (kind : ScalarKind) {bytes : List UInt8} (h : bytes.length = kind.width) :
  kind.encode (kind.decode bytes) = bytes
  := by
  have hlt := LittleEndian.decode_lt bytes
  rw [h] at hlt
  rw [encode, decode, toBits_ofBits kind hlt, ← h, LittleEndian.encode_decode]

/-- A byte string that is long enough starts with a scalar. -/
theorem exists_encode_append (kind : ScalarKind) (others : Nat) {bytes : List UInt8}
    (h : bytes.length = kind.width + others) :
  ∃ value rest, bytes = kind.encode value ++ rest ∧ rest.length = others
  := by
  have hfront : (bytes.take kind.width).length = kind.width := by
    rw [List.length_take, h]
    omega
  use kind.decode (bytes.take kind.width), bytes.drop kind.width
  constructor
  · rw [encode_decode kind hfront, List.take_append_drop]
  · rw [List.length_drop, h, Nat.add_sub_cancel_left]

end ScalarKind

/-! ### Payloads that are refused -/

/-- A field reader finds in the given bytes a value that a field may not hold. -/
def Refuses {α : Type} (read : FieldReader α) (bytes : List UInt8) : Prop :=
  ∀ reader : PayloadReader, reader.Sees bytes → read reader = .error .fieldValue

namespace Refuses

variable {α β : Type}

theorem scalar {kind : ScalarKind} {value : kind.Value} {next : kind.Value → FieldReader α}
    {bytes : List UInt8} (h : Refuses (next value) bytes) :
  Refuses (FieldReader.scalar kind >>= next) (kind.encode value ++ bytes)
  := by
  intro reader hreader
  obtain ⟨hnext, hrest⟩ := FieldReader.scalar_bind_of_sees next hreader
  rw [hnext, h _ hrest]

theorem require {value? : Option β} (next : β → FieldReader α) (bytes : List UInt8)
    (h : value? = none) :
  Refuses (FieldReader.require value? >>= next) bytes
  := by
  subst h
  intro reader hreader
  rfl

end Refuses

namespace Format

variable {α : Type} {format : Format α} {foreign : List UInt8 → Prop}

/-- The bytes of a payload, continued by zeros to the length of the full payload. -/
def continued (format : Format α) (payload : List UInt8) : List UInt8 :=
  payload ++ List.replicate (format.maxLength - payload.length) 0

theorem length_continued {payload : List UInt8} (h : payload.length ≤ format.maxLength) :
  (format.continued payload).length = format.maxLength
  := by
  rw [continued, List.length_append, List.length_replicate, Nat.add_sub_of_le h]

/-- Zeros behind a payload make no difference to what it is continued to. -/
theorem continued_append_zeros {payload : List UInt8} {zeros : Nat}
    (h : payload.length + zeros ≤ format.maxLength) :
  format.continued (payload ++ List.replicate zeros 0) = format.continued payload
  := by
  rw [continued, continued, List.append_assoc, List.replicate_append_replicate,
    List.length_append, List.length_replicate]
  congr 2
  omega

/-- A payload is seen as what it is continued to. -/
theorem sees_continued (payload : List UInt8) :
  PayloadReader.Sees ⟨payload, 0⟩ (format.continued payload)
  := by
  have hle : payload.length ≤ (format.continued payload).length := by
    rw [continued, List.length_append]
    apply Nat.le_add_right
  rw [PayloadReader.Sees, PayloadReader.takeBytes, List.drop_zero, List.take_of_length_le hle,
    continued, List.length_append, List.length_replicate, Nat.add_sub_cancel_left]

/-- The fields of a value fill the full payload, and leave what is behind it. -/
theorem putAll?_fields (format : Format α) (value : α) (buffer : List UInt8) :
  PayloadWriter.putAll? ⟨buffer, 0⟩ (format.fields value) =
    if format.maxLength ≤ buffer.length then
      some ⟨format.fullPayload value ++ buffer.drop format.maxLength, format.maxLength⟩
    else
      none
  := by
  have hput := @PayloadWriter.putAll?_filled buffer [] (Nat.zero_le _) (format.fields value)
  rw [List.length_nil, Nat.zero_add] at hput
  rw [← format.length_fullPayload value]
  apply hput

/-- What is sent of a full payload is continued to it. -/
theorem continued_take_sentLength (format : Format α) (value : α) :
  format.continued ((format.fullPayload value).take (sentLength (format.fullPayload value))) =
    format.fullPayload value
  := by
  rw [continued, List.length_take_of_le (sentLength_le _), ← format.length_fullPayload value,
    ← drop_sentLength, List.take_append_drop]

/-- What a value is sent as is its full payload without the trailing zeros. -/
theorem payload_eq_trimmed (hpos : 0 < format.maxLength) (value : α) :
  (format.payload value).bytes = trimmed (format.fullPayload value)
  := by
  apply take_sentLength
  apply List.ne_nil_of_length_pos
  rw [length_fullPayload]
  exact hpos

/-! ### Exact formats -/

/-- The reader of a format gives every value back from its full payload.  A byte string of the
length of the full payload is that of a value unless it is foreign, and then the reader
refuses it. -/
structure Exact (format : Format α) (foreign : List UInt8 → Prop) : Prop where
  faithful : format.Faithful
  refuses : ∀ full, full.length = format.maxLength → foreign full → Refuses format.read full
  exists_value : ∀ full, full.length = format.maxLength → ¬ foreign full →
    ∃ value, format.fullPayload value = full

theorem Faithful.parse_of_continued (faithful : format.Faithful) {payload : List UInt8}
    {value : α} (h : format.fullPayload value = format.continued payload) :
  format.parse payload = .ok value
  := by
  have hsees := format.sees_continued payload
  rw [← h] at hsees
  rw [parse, faithful value _ hsees]
  rfl

namespace Exact

theorem parse_of_foreign (hexact : format.Exact foreign) {payload : List UInt8}
    (hlength : payload.length ≤ format.maxLength) (h : foreign (format.continued payload)) :
  format.parse payload = .error .fieldValue
  := by
  rw [parse, hexact.refuses _ (length_continued hlength) h _ (format.sees_continued payload)]
  rfl

/-- What a payload that is not too long is parsed to. -/
theorem parse_cases (hexact : format.Exact foreign) {payload : List UInt8}
    (hlength : payload.length ≤ format.maxLength) :
  (foreign (format.continued payload) ∧ format.parse payload = .error .fieldValue) ∨
    ∃ value, ¬ foreign (format.continued payload) ∧
      format.fullPayload value = format.continued payload ∧ format.parse payload = .ok value
  := by
  by_cases h : foreign (format.continued payload)
  · left
    exact ⟨h, hexact.parse_of_foreign hlength h⟩
  · right
    obtain ⟨value, hvalue⟩ := hexact.exists_value _ (length_continued hlength) h
    exact ⟨value, h, hvalue, hexact.faithful.parse_of_continued hvalue⟩

/-- Zeros behind a payload make no difference to what it is parsed to. -/
theorem parse_append_zeros (hexact : format.Exact foreign) {payload : List UInt8} {zeros : Nat}
    (h : payload.length + zeros ≤ format.maxLength) :
  format.parse (payload ++ List.replicate zeros 0) = format.parse payload
  := by
  have hcontinued := continued_append_zeros h
  have hlonger : (payload ++ List.replicate zeros 0).length ≤ format.maxLength := by
    rw [List.length_append, List.length_replicate]
    exact h
  rcases hexact.parse_cases (Nat.le_of_add_right_le h) with
    ⟨hforeign, hparse⟩ | ⟨value, -, hvalue, hparse⟩
  · rw [hparse]
    apply hexact.parse_of_foreign hlonger
    rw [hcontinued]
    exact hforeign
  · rw [hparse]
    apply hexact.faithful.parse_of_continued
    rw [hvalue, hcontinued]

end Exact

/-! ### Frames -/

variable {frame : Frame}

theorem decode_of_message_ne (h : frame.message ≠ format.id) :
  format.decode frame = .error .otherType
  := by
  rw [decode, if_pos h]

theorem decode_of_length_gt (hid : frame.message = format.id)
    (h : format.maxLength < frame.payload.bytes.length) :
  format.decode frame = .error (.payload .length)
  := by
  rw [decode, if_neg (not_not_intro hid), if_pos h]

theorem decode_of_length_le (hid : frame.message = format.id)
    (h : frame.payload.bytes.length ≤ format.maxLength) :
  format.decode frame = (format.parse frame.payload.bytes).mapError .payload
  := by
  rw [decode, if_neg (not_not_intro hid), if_neg (Nat.not_lt_of_le h)]

namespace Exact

/-- What a frame holds for an exact format: the message type is looked at first, the length of
the payload then, and its bytes at last. -/
theorem decode_cases (hexact : format.Exact foreign) (frame : Frame) :
  (frame.message ≠ format.id ∧ format.decode frame = .error .otherType) ∨
    (frame.message = format.id ∧ format.maxLength < frame.payload.bytes.length ∧
      format.decode frame = .error (.payload .length)) ∨
    (frame.message = format.id ∧ frame.payload.bytes.length ≤ format.maxLength ∧
      foreign (format.continued frame.payload.bytes) ∧
      format.decode frame = .error (.payload .fieldValue)) ∨
    ∃ value, frame.message = format.id ∧ frame.payload.bytes.length ≤ format.maxLength ∧
      ¬ foreign (format.continued frame.payload.bytes) ∧
      format.fullPayload value = format.continued frame.payload.bytes ∧
      format.decode frame = .ok value
  := by
  by_cases hid : frame.message = format.id
  · right
    rcases Nat.lt_or_ge format.maxLength frame.payload.bytes.length with hgt | hle
    · left
      exact ⟨hid, hgt, decode_of_length_gt hid hgt⟩
    · right
      rw [decode_of_length_le hid hle]
      rcases hexact.parse_cases hle with ⟨hforeign, hparse⟩ | ⟨value, hnot, hvalue, hparse⟩
      · left
        rw [hparse]
        exact ⟨hid, hle, hforeign, rfl⟩
      · right
        rw [hparse]
        exact ⟨value, hid, hle, hnot, hvalue, rfl⟩
  · left
    exact ⟨hid, decode_of_message_ne hid⟩

theorem decode_eq_ok_iff (hexact : format.Exact foreign) {value : α} :
  format.decode frame = .ok value ↔
    frame.message = format.id ∧ frame.payload.bytes.length ≤ format.maxLength ∧
      format.fullPayload value = format.continued frame.payload.bytes
  := by
  constructor
  · intro h
    rcases hexact.decode_cases frame with ⟨-, hdecode⟩ | ⟨-, -, hdecode⟩ | ⟨-, -, -, hdecode⟩ |
      ⟨other, hid, hle, -, hother, hdecode⟩
    · rw [hdecode] at h
      cases h
    · rw [hdecode] at h
      cases h
    · rw [hdecode] at h
      cases h
    · rw [hdecode] at h
      cases h
      exact ⟨hid, hle, hother⟩
  · rintro ⟨hid, hle, hvalue⟩
    rw [decode_of_length_le hid hle, hexact.faithful.parse_of_continued hvalue]
    rfl

/-- When a frame does not hold a value, and for which reason. -/
theorem decode_eq_error_iff (hexact : format.Exact foreign) (failure : DecodeFailure) :
  format.decode frame = .error failure ↔
    match failure with
    | .otherType => frame.message ≠ format.id
    | .payload .length =>
        frame.message = format.id ∧ format.maxLength < frame.payload.bytes.length
    | .payload .fieldValue =>
        frame.message = format.id ∧ frame.payload.bytes.length ≤ format.maxLength ∧
          foreign (format.continued frame.payload.bytes)
  := by
  rcases hexact.decode_cases frame with ⟨hid, hdecode⟩ | ⟨hid, hgt, hdecode⟩ |
    ⟨hid, hle, hforeign, hdecode⟩ | ⟨value, hid, hle, hnot, -, hdecode⟩
  · rw [hdecode]
    rcases failure with _ | _ | _ <;> simp [hid]
  · rw [hdecode]
    rcases failure with _ | _ | _ <;> simp [hid, hgt, Nat.not_le_of_lt hgt]
  · rw [hdecode]
    rcases failure with _ | _ | _ <;> simp [hid, hle, hforeign]
  · rw [hdecode]
    rcases failure with _ | _ | _ <;> simp [hid, hle, hnot]

/-- Zeros behind the payload make no difference to what a frame holds, as long as it is not too
long then. -/
theorem decode_append_zeros (hexact : format.Exact foreign) {zeros : Nat}
    (h : frame.payload.bytes.length + zeros ≤ format.maxLength) :
  ∃ longer, frame.withPayload? (frame.payload.bytes ++ List.replicate zeros 0) = some longer ∧
    format.decode longer = format.decode frame
  := by
  have hlonger : (frame.payload.bytes ++ List.replicate zeros 0).length ≤ format.maxLength := by
    rw [List.length_append, List.length_replicate]
    exact h
  have hlimit := hlonger.trans format.maxLength_le
  let longer : Frame := { frame with payload := ⟨_, hlimit⟩ }
  refine ⟨longer, dif_pos hlimit, ?_⟩
  by_cases hid : frame.message = format.id
  · have hdecode : format.decode longer =
        (format.parse (frame.payload.bytes ++ List.replicate zeros 0)).mapError .payload :=
      decode_of_length_le hid hlonger
    rw [hdecode, hexact.parse_append_zeros h,
      decode_of_length_le hid (Nat.le_of_add_right_le h)]
  · have hdecode : format.decode longer = .error .otherType := decode_of_message_ne hid
    rw [hdecode, decode_of_message_ne hid]

end Exact

end Format

/-! ### The flight dialect -/

/-- A status has the number that it was found by. -/
theorem SystemStatus.toByte_of_ofByte? {b : UInt8} {status : SystemStatus}
    (h : ofByte? b = some status) :
  status.toByte = b
  := by
  rw [ofByte?] at h
  simpa using List.find?_some h

theorem SystemStatus.ofByte?_eq_none_iff (b : UInt8) :
  ofByte? b = none ↔ 9 ≤ b.toNat
  := by
  rw [ofByte?, List.find?_eq_none]
  simp [toByte, ← UInt8.toNat_inj]
  omega

/-- A unit has the number that it was found by. -/
theorem ImuUnit.toByte_of_ofByte? {b : UInt8} {device : ImuUnit}
    (h : ofByte? b = some device) :
  device.toByte = b
  := by
  rw [ofByte?] at h
  simpa using List.find?_some h

theorem ImuUnit.ofByte?_eq_none_iff (b : UInt8) :
  ofByte? b = none ↔ 2 ≤ b.toNat
  := by
  rw [ofByte?, List.find?_eq_none]
  simp [toByte, ← UInt8.toNat_inj]
  omega

/-- At an offset there is a byte that is no number of an enumeration, whose values are numbered
from zero. -/
def ForeignAt (offset count : Nat) (full : List UInt8) : Prop :=
  ∃ b, full[offset]? = some b ∧ count ≤ b.toNat

/-- The byte strings that are refused as full payloads: those with a foreign byte in the place
of an enumeration. -/
def flight.foreign : flight.Kind → List UInt8 → Prop
  | .heartbeat => ForeignAt 7 9
  | .linkTest => fun _ => False
  | .imu => ForeignAt 32 2
  | .servo => fun _ => False

theorem foreignAt_iff {offset count : Nat} {full : List UInt8} {b : UInt8}
    (h : full[offset]? = some b) :
  ForeignAt offset count full ↔ count ≤ b.toNat
  := by
  rw [ForeignAt, h]
  simp

/-- Nine bytes are the fields of a heartbeat, whose status may be out of range. -/
theorem Heartbeat.exists_fields {full : List UInt8} (h : full.length = format.maxLength) :
  ∃ mode vehicle autopilot base status version, full = Field.encodeAll
      [.scalar .u32 mode, .scalar .u8 vehicle, .scalar .u8 autopilot, .scalar .u8 base,
        .scalar .u8 status, .scalar .u8 version] ∧
    full[7]? = some status
  := by
  obtain ⟨mode, rest, rfl, h₁⟩ := ScalarKind.u32.exists_encode_append 5 h
  obtain ⟨vehicle, rest, rfl, h₂⟩ := ScalarKind.u8.exists_encode_append 4 h₁
  obtain ⟨autopilot, rest, rfl, h₃⟩ := ScalarKind.u8.exists_encode_append 3 h₂
  obtain ⟨base, rest, rfl, h₄⟩ := ScalarKind.u8.exists_encode_append 2 h₃
  obtain ⟨status, rest, rfl, h₅⟩ := ScalarKind.u8.exists_encode_append 1 h₄
  obtain ⟨version, rest, rfl, h₆⟩ := ScalarKind.u8.exists_encode_append 0 h₅
  rw [List.length_eq_zero_iff.mp h₆]
  exact ⟨mode, vehicle, autopilot, base, status, version, rfl,
    congrArg some UInt8.ofNat_toNat⟩

theorem Heartbeat.exact_format :
  format.Exact (ForeignAt 7 9)
  := by
  refine ⟨faithful_format, ?_, ?_⟩
  · intro full h hforeign
    obtain ⟨mode, vehicle, autopilot, base, status, version, rfl, hstatus⟩ := exists_fields h
    rw [foreignAt_iff hstatus, ← SystemStatus.ofByte?_eq_none_iff] at hforeign
    apply Refuses.scalar
    apply Refuses.scalar
    apply Refuses.scalar
    apply Refuses.scalar
    apply Refuses.scalar
    apply Refuses.require _ _ hforeign
  · intro full h hnot
    obtain ⟨mode, vehicle, autopilot, base, byte, version, rfl, hbyte⟩ := exists_fields h
    rw [foreignAt_iff hbyte, ← SystemStatus.ofByte?_eq_none_iff] at hnot
    obtain ⟨status, hstatus⟩ := Option.ne_none_iff_exists'.mp hnot
    use ⟨mode, vehicle, autopilot, base, status, version⟩
    rw [← SystemStatus.toByte_of_ofByte? hstatus]
    rfl

theorem LinkTest.exact_format :
  format.Exact (fun _ => False)
  := by
  refine ⟨faithful_format, ?_, ?_⟩
  · intro full h hforeign
    contradiction
  · intro full h hnot
    obtain ⟨field1, rest, rfl, h₁⟩ := ScalarKind.u32.exists_encode_append 4 h
    obtain ⟨field2, rest, rfl, h₂⟩ := ScalarKind.f32.exists_encode_append 0 h₁
    rw [List.length_eq_zero_iff.mp h₂]
    exact ⟨⟨field1, field2⟩, rfl⟩

/-- Thirty-three bytes are the fields of a sample, whose unit may be out of range. -/
theorem ImuSample.exists_fields {full : List UInt8} (h : full.length = format.maxLength) :
  ∃ timestamp accX accY accZ gyroX gyroY gyroZ device, full = Field.encodeAll
      [.scalar .i64 timestamp, .scalar .f32 accX, .scalar .f32 accY, .scalar .f32 accZ,
        .scalar .f32 gyroX, .scalar .f32 gyroY, .scalar .f32 gyroZ, .scalar .u8 device] ∧
    full[32]? = some device
  := by
  obtain ⟨timestamp, rest, rfl, h₁⟩ := ScalarKind.i64.exists_encode_append 25 h
  obtain ⟨accX, rest, rfl, h₂⟩ := ScalarKind.f32.exists_encode_append 21 h₁
  obtain ⟨accY, rest, rfl, h₃⟩ := ScalarKind.f32.exists_encode_append 17 h₂
  obtain ⟨accZ, rest, rfl, h₄⟩ := ScalarKind.f32.exists_encode_append 13 h₃
  obtain ⟨gyroX, rest, rfl, h₅⟩ := ScalarKind.f32.exists_encode_append 9 h₄
  obtain ⟨gyroY, rest, rfl, h₆⟩ := ScalarKind.f32.exists_encode_append 5 h₅
  obtain ⟨gyroZ, rest, rfl, h₇⟩ := ScalarKind.f32.exists_encode_append 1 h₆
  obtain ⟨device, rest, rfl, h₈⟩ := ScalarKind.u8.exists_encode_append 0 h₇
  rw [List.length_eq_zero_iff.mp h₈]
  exact ⟨timestamp, accX, accY, accZ, gyroX, gyroY, gyroZ, device, rfl,
    congrArg some UInt8.ofNat_toNat⟩

theorem ImuSample.exact_format :
  format.Exact (ForeignAt 32 2)
  := by
  refine ⟨faithful_format, ?_, ?_⟩
  · intro full h hforeign
    obtain ⟨timestamp, accX, accY, accZ, gyroX, gyroY, gyroZ, device, rfl, hdevice⟩ :=
      exists_fields h
    rw [foreignAt_iff hdevice, ← ImuUnit.ofByte?_eq_none_iff] at hforeign
    apply Refuses.scalar
    apply Refuses.scalar
    apply Refuses.scalar
    apply Refuses.scalar
    apply Refuses.scalar
    apply Refuses.scalar
    apply Refuses.scalar
    apply Refuses.scalar
    apply Refuses.require _ _ hforeign
  · intro full h hnot
    obtain ⟨timestamp, accX, accY, accZ, gyroX, gyroY, gyroZ, byte, rfl, hbyte⟩ :=
      exists_fields h
    rw [foreignAt_iff hbyte, ← ImuUnit.ofByte?_eq_none_iff] at hnot
    obtain ⟨device, hdevice⟩ := Option.ne_none_iff_exists'.mp hnot
    use ⟨timestamp, device, accX, accY, accZ, gyroX, gyroY, gyroZ⟩
    rw [← ImuUnit.toByte_of_ofByte? hdevice]
    rfl

theorem ServoCommand.exact_format :
  format.Exact (fun _ => False)
  := by
  refine ⟨faithful_format, ?_, ?_⟩
  · intro full h hforeign
    contradiction
  · intro full h hnot
    obtain ⟨timestamp, rest, rfl, h₁⟩ := ScalarKind.i64.exists_encode_append 16 h
    obtain ⟨s1, rest, rfl, h₂⟩ := ScalarKind.f32.exists_encode_append 12 h₁
    obtain ⟨s2, rest, rfl, h₃⟩ := ScalarKind.f32.exists_encode_append 8 h₂
    obtain ⟨s3, rest, rfl, h₄⟩ := ScalarKind.f32.exists_encode_append 4 h₃
    obtain ⟨s4, rest, rfl, h₅⟩ := ScalarKind.f32.exists_encode_append 0 h₄
    rw [List.length_eq_zero_iff.mp h₅]
    exact ⟨⟨timestamp, s1, s2, s3, s4⟩, rfl⟩

/-- The formats of the flight dialect are exact. -/
theorem flight.exact_format (kind : flight.Kind) :
  (flight.format kind).Exact (flight.foreign kind)
  := by
  cases kind with
  | heartbeat => apply Heartbeat.exact_format
  | linkTest => apply LinkTest.exact_format
  | imu => apply ImuSample.exact_format
  | servo => apply ServoCommand.exact_format

theorem flight.maxLength_pos (kind : flight.Kind) :
  0 < (flight.format kind).maxLength
  := by
  cases kind <;> decide

/-- Encoding and decoding the messages of the flight dialect are inverse to each other, up to
trailing zeros.

The fields of a value fill the full payload, whatever the buffer held before, and a frame of
the message type holds the value if its payload is what is sent of the full payload.  If a
frame holds a value, then the full payload of the value is the payload of the frame continued
by zeros, and the frame that is written for the value has the payload without the trailing
zeros.  Zeros behind a payload make no difference, as long as it is not too long then.  A frame
does not hold a value if it is one of another type, if its payload is too long, or if there is
a foreign byte in the place of an enumeration, in this order. -/
theorem flight.decode_encode_inverse (kind : flight.Kind) :
  let format := flight.format kind
  (∀ value,
    (∀ buffer, PayloadWriter.putAll? ⟨buffer, 0⟩ (format.fields value) =
      if format.maxLength ≤ buffer.length then
        some ⟨format.fullPayload value ++ buffer.drop format.maxLength, format.maxLength⟩
      else
        none) ∧
    ∀ frame, frame.message = format.id →
      frame.payload.bytes =
        (format.fullPayload value).take (sentLength (format.fullPayload value)) →
      format.decode frame = .ok value) ∧
  (∀ frame value, format.decode frame = .ok value →
    format.fullPayload value = format.continued frame.payload.bytes ∧
    ∀ system component sequence packet,
      let sent := format.frame value system component sequence
      (format.encode value system component sequence packet).bytes =
          sent.wire format.crcExtra ∧
        sent.payload.bytes = trimmed frame.payload.bytes) ∧
  (∀ frame zeros, frame.payload.bytes.length + zeros ≤ format.maxLength →
    ∃ longer, frame.withPayload? (frame.payload.bytes ++ List.replicate zeros 0) = some longer ∧
      format.decode longer = format.decode frame) ∧
  (∀ frame,
    (format.decode frame = .error .otherType ↔ frame.message ≠ format.id) ∧
    (format.decode frame = .error (.payload .length) ↔
      frame.message = format.id ∧ format.maxLength < frame.payload.bytes.length) ∧
    (format.decode frame = .error (.payload .fieldValue) ↔
      frame.message = format.id ∧ frame.payload.bytes.length ≤ format.maxLength ∧
        flight.foreign kind (format.continued frame.payload.bytes)))
  := by
  intro format
  have hexact : format.Exact (flight.foreign kind) := flight.exact_format kind
  refine ⟨?_, ?_, ?_, ?_⟩
  · intro value
    constructor
    · apply format.putAll?_fields
    · intro frame hid hpayload
      apply hexact.decode_eq_ok_iff.mpr
      rw [hpayload]
      refine ⟨hid, ?_, (format.continued_take_sentLength value).symm⟩
      rw [← format.length_fullPayload value]
      apply List.length_take_le'
  · intro frame value h
    obtain ⟨hid, hle, hvalue⟩ := hexact.decode_eq_ok_iff.mp h
    refine ⟨hvalue, ?_⟩
    intro system component sequence packet sent
    constructor
    · apply format.bytes_encode
    · rw [← trimmed_append_zeros frame.payload.bytes, ← Format.continued, ← hvalue]
      apply format.payload_eq_trimmed (flight.maxLength_pos kind)
  · intro frame zeros h
    apply hexact.decode_append_zeros h
  · intro frame
    exact ⟨hexact.decode_eq_error_iff .otherType, hexact.decode_eq_error_iff (.payload .length),
      hexact.decode_eq_error_iff (.payload .fieldValue)⟩

end FlightBus

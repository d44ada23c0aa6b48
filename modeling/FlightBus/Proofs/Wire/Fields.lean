import FlightBus.Wire.Field
import Mathlib.Algebra.Order.Ring.Nat

/-!
# Fields one behind the other

Fields are put into a buffer one by one, and those for which there is no room are refused.  The
buffer then holds the bytes of the fields that were put, one behind the other, and what was in
it before behind them.  What was put is read back.  A reader regards its bytes as continued by
zeros without end, so zeros that are there make no difference to what is read.
-/

namespace FlightBus

/-! ### Bytes of numbers -/

/-- The bytes of a number are its digits to the base 256, the least significant first. -/
theorem LittleEndian.getElem?_encode {width i : Nat} (n : Nat) (h : i < width) :
  (encode width n)[i]? = some (UInt8.ofNat (n / 256 ^ i))
  := by
  induction width generalizing n i with
  | zero => cases h
  | succ width ih =>
      cases i with
      | zero => rw [encode, List.getElem?_cons_zero, Nat.pow_zero, Nat.div_one]
      | succ i =>
          rw [encode, List.getElem?_cons_succ, ih _ (Nat.lt_of_succ_lt_succ h),
            Nat.div_div_eq_div_mul, Nat.pow_succ, Nat.mul_comm 256]

/-! ### Writing -/

/-- The fields whose outcome is that they were put. -/
def Field.accepted (fields : List Field) (outcomes : List Bool) : List Field :=
  ((fields.zip outcomes).filter Prod.snd).map Prod.fst

namespace PayloadWriter

/-- Puts a field into the buffer if there is room.  Whether it was put, and the writer
afterwards. -/
def offer (writer : PayloadWriter) (field : Field) : Bool × PayloadWriter :=
  match writer.put? field with
  | some writer => (true, writer)
  | none => (false, writer)

/-- Puts those of some fields into the buffer for which there is room.  For each field whether
it was put, and the writer afterwards. -/
def offerAll : PayloadWriter → List Field → List Bool × PayloadWriter
  | writer, [] => ([], writer)
  | writer, field :: fields =>
      let (outcome, writer) := writer.offer field
      let (outcomes, writer) := writer.offerAll fields
      (outcome :: outcomes, writer)

/-- A buffer that was filled with some bytes from its start. -/
def filled (buffer bytes : List UInt8) : PayloadWriter :=
  ⟨bytes ++ buffer.drop bytes.length, bytes.length⟩

section Filled

variable {buffer bytes : List UInt8} {field : Field}

theorem length_buffer_filled (h : bytes.length ≤ buffer.length) :
  (filled buffer bytes).buffer.length = buffer.length
  := by
  rw [filled, List.length_append, List.length_drop, Nat.add_sub_of_le h]

/-- More bytes are put behind the bytes if there is room. -/
theorem putBytes?_filled (h : bytes.length ≤ buffer.length) (more : List UInt8) :
  (filled buffer bytes).putBytes? more =
    if bytes.length + more.length ≤ buffer.length then
      some (filled buffer (bytes ++ more))
    else
      none
  := by
  have hwritten : overwrite (bytes ++ buffer.drop bytes.length) bytes.length more =
      bytes ++ more ++ buffer.drop (bytes.length + more.length) := by
    rw [overwrite, List.take_left, ← List.drop_drop, List.drop_left, List.drop_drop]
  rw [putBytes?, length_buffer_filled h, filled, filled, hwritten, List.length_append]

theorem offer_filled_of_le (h : bytes.length + field.kind.width ≤ buffer.length) :
  (filled buffer bytes).offer field = (true, filled buffer (bytes ++ field.encode))
  := by
  rw [offer, put?, putBytes?_filled (Nat.le_of_add_right_le h), Field.length_encode, if_pos h]

theorem offer_filled_of_lt (hbytes : bytes.length ≤ buffer.length)
    (h : buffer.length < bytes.length + field.kind.width) :
  (filled buffer bytes).offer field = (false, filled buffer bytes)
  := by
  rw [offer, put?, putBytes?_filled hbytes, Field.length_encode, if_neg (Nat.not_le_of_lt h)]

end Filled

/-- What comes of offering fields to a buffer that is filled with some bytes.  Every field has
an outcome.  A field is put if and only if it fits behind the bytes and the fields that were put
before it, and then it is behind them. -/
structure Fills (buffer bytes : List UInt8) (fields : List Field)
    (result : List Bool × PayloadWriter) : Prop where
  length_eq : result.1.length = fields.length
  put_iff : ∀ i field, fields[i]? = some field → (result.1[i]? = some true ↔
    (bytes ++ Field.encodeAll (Field.accepted (fields.take i) result.1)).length +
      field.kind.width ≤ buffer.length)
  after_eq : result.2 =
    filled buffer (bytes ++ Field.encodeAll (Field.accepted fields result.1))

namespace Fills

variable {buffer bytes : List UInt8} {field : Field} {fields : List Field}
  {result : List Bool × PayloadWriter}

theorem nil (buffer bytes : List UInt8) :
  Fills buffer bytes [] ([], filled buffer bytes)
  where
  length_eq := rfl
  put_iff _ _ h := nomatch h
  after_eq := congrArg (filled buffer) (List.append_nil bytes).symm

/-- A field that is put goes before those that are offered after it. -/
theorem put (fits : bytes.length + field.kind.width ≤ buffer.length)
    (fills : Fills buffer (bytes ++ field.encode) fields result) :
  Fills buffer bytes (field :: fields) (true :: result.1, result.2)
  where
  length_eq := congrArg Nat.succ fills.length_eq
  put_iff i next h := by
    cases i with
    | zero =>
        cases h
        change some true = some true ↔ (bytes ++ []).length + _ ≤ _
        simp [fits]
    | succ i =>
        have hiff := fills.put_iff i next h
        rw [List.append_assoc] at hiff
        apply hiff
  after_eq := by
    have hafter := fills.after_eq
    rw [List.append_assoc] at hafter
    apply hafter

/-- A field that is refused makes no difference to those that are offered after it. -/
theorem refuse (h : buffer.length < bytes.length + field.kind.width)
    (fills : Fills buffer bytes fields result) :
  Fills buffer bytes (field :: fields) (false :: result.1, result.2)
  where
  length_eq := congrArg Nat.succ fills.length_eq
  put_iff i next hnext := by
    cases i with
    | zero =>
        cases hnext
        change some false = some true ↔ (bytes ++ []).length + _ ≤ _
        simp [h]
    | succ i => apply fills.put_iff i next hnext
  after_eq := fills.after_eq

end Fills

theorem fills_offerAll {buffer bytes : List UInt8} (h : bytes.length ≤ buffer.length)
    (fields : List Field) :
  Fills buffer bytes fields ((filled buffer bytes).offerAll fields)
  := by
  induction fields generalizing bytes with
  | nil => apply Fills.nil
  | cons field fields ih =>
      rw [offerAll]
      rcases Nat.lt_or_ge buffer.length (bytes.length + field.kind.width) with hlt | hfits
      · rw [offer_filled_of_lt h hlt]
        apply (ih h).refuse hlt
      · rw [offer_filled_of_le hfits]
        apply Fills.put hfits
        apply ih
        rw [List.length_append, Field.length_encode]
        exact hfits

/-- A field that was refused changed nothing. -/
theorem offerAll_take_of_refused (writer : PayloadWriter) {fields : List Field} {i : Nat}
    (h : (writer.offerAll fields).1[i]? = some false) :
  (writer.offerAll (fields.take (i + 1))).2 = (writer.offerAll (fields.take i)).2
  := by
  induction fields generalizing writer i with
  | nil => cases h
  | cons first fields ih =>
      cases i with
      | zero =>
          have houtcome : (writer.offer first).1 = false := Option.some.inj h
          change (writer.offer first).2 = writer
          rw [offer] at houtcome ⊢
          cases hput : writer.put? first with
          | none => rfl
          | some next =>
              rw [hput] at houtcome
              cases houtcome
      | succ i => apply ih _ h

end PayloadWriter

/-! ### Reading -/

namespace PayloadReader

/-- The next bytes that a reader sees are the given ones. -/
def Sees (reader : PayloadReader) (bytes : List UInt8) : Prop :=
  (reader.takeBytes bytes.length).1 = bytes

/-- The reader behind the next bytes. -/
def skip (reader : PayloadReader) (count : Nat) : PayloadReader :=
  ⟨reader.bytes, reader.offset + count⟩

/-- A reader takes bytes in two pieces as it takes them in one. -/
theorem takeBytes_add (reader : PayloadReader) (count others : Nat) :
  (reader.takeBytes (count + others)).1 =
    (reader.takeBytes count).1 ++ ((reader.skip count).takeBytes others).1
  := by
  simp only [takeBytes, skip, ← List.drop_drop]
  generalize reader.bytes.drop reader.offset = unread
  rcases Nat.le_total count unread.length with hle | hge
  · rw [List.take_add, List.length_take_of_le hle, Nat.sub_self, List.replicate_zero,
      List.append_nil, List.append_assoc]
    congr 2
    rw [List.length_append, List.length_take_of_le hle]
    congr 1
    omega
  · rw [List.drop_eq_nil_of_le hge, List.take_of_length_le (Nat.le_add_right_of_le hge),
      List.take_of_length_le hge, List.take_nil, List.nil_append, List.length_nil,
      List.append_assoc, List.replicate_append_replicate]
    congr 2
    omega

theorem sees_append {reader : PayloadReader} {bytes more : List UInt8}
    (h : reader.Sees (bytes ++ more)) :
  reader.Sees bytes ∧ (reader.skip bytes.length).Sees more
  := by
  rw [Sees, List.length_append, takeBytes_add] at h
  apply List.append_inj h
  apply length_takeBytes

theorem sees_self (bytes : List UInt8) :
  Sees ⟨bytes, 0⟩ bytes
  := by
  simp [Sees, takeBytes]

/-- The bytes that are read are those that are there, and zeros behind them. -/
theorem getElem?_takeBytes (reader : PayloadReader) {count i : Nat} (h : i < count) :
  (reader.takeBytes count).1[i]? = some (reader.bytes[reader.offset + i]?.getD 0)
  := by
  rw [takeBytes]
  dsimp only
  rcases Nat.lt_or_ge i ((reader.bytes.drop reader.offset).take count).length with hlt | hge
  · have hsome : reader.offset + i < reader.bytes.length := by
      rw [List.length_take, List.length_drop] at hlt
      omega
    rw [List.getElem?_append_left hlt, List.getElem?_take_of_lt h, List.getElem?_drop,
      List.getElem?_eq_getElem hsome, Option.getD_some]
  · have hnone : reader.bytes.length ≤ reader.offset + i := by
      rw [List.length_take, List.length_drop] at hge
      omega
    rw [List.getElem?_append_right hge, List.getElem?_replicate_of_lt (by omega),
      List.getElem?_eq_none hnone, Option.getD_none]

/-- Zeros behind the bytes make no difference to what is read. -/
theorem takeBytes_append_zeros (bytes : List UInt8) (offset zeros count : Nat) :
  (takeBytes ⟨bytes ++ List.replicate zeros 0, offset⟩ count).1 =
    (takeBytes ⟨bytes, offset⟩ count).1
  := by
  apply List.ext_getElem?
  intro i
  rcases Nat.lt_or_ge i count with hlt | hge
  · rw [getElem?_takeBytes _ hlt, getElem?_takeBytes _ hlt]
    dsimp only
    rcases Nat.lt_or_ge (offset + i) bytes.length with hin | hout
    · rw [List.getElem?_append_left hin]
    · rw [List.getElem?_append_right hout, List.getElem?_eq_none hout, List.getElem?_replicate]
      split <;> rfl
  · rw [List.getElem?_eq_none (by rw [length_takeBytes]; exact hge),
      List.getElem?_eq_none (by rw [length_takeBytes]; exact hge)]

/-- Reads fields of some kinds.  Each field, and the number of bytes read when it was read. -/
def takeAll : PayloadReader → List FieldKind → List (Field × Nat)
  | _, [] => []
  | reader, kind :: kinds =>
      let (field, reader) := reader.take kind
      (field, reader.offset) :: reader.takeAll kinds

theorem takeAll_cons (reader : PayloadReader) (kind : FieldKind) (kinds : List FieldKind) :
  reader.takeAll (kind :: kinds) =
    (kind.decode (reader.takeBytes kind.width).1, reader.offset + kind.width) ::
      (reader.skip kind.width).takeAll kinds
  := rfl

/-- Fields that are seen are read. -/
theorem takeAll_of_sees {reader : PayloadReader} {fields : List Field}
    (h : reader.Sees (Field.encodeAll fields)) :
  (reader.takeAll (fields.map Field.kind)).map Prod.fst = fields
  := by
  induction fields generalizing reader with
  | nil => rfl
  | cons field fields ih =>
      obtain ⟨hfield, hothers⟩ := sees_append h
      rw [Sees, Field.length_encode] at hfield
      rw [Field.length_encode] at hothers
      rw [List.map_cons, takeAll_cons, List.map_cons, hfield, Field.decode_encode, ih hothers]

/-- Zeros behind the bytes make no difference to the fields that are read, however far behind
the bytes they are. -/
theorem takeAll_append_zeros (bytes : List UInt8) (offset zeros : Nat)
    (kinds : List FieldKind) :
  takeAll ⟨bytes ++ List.replicate zeros 0, offset⟩ kinds = takeAll ⟨bytes, offset⟩ kinds
  := by
  induction kinds generalizing offset with
  | nil => rfl
  | cons kind kinds ih =>
      have hothers := ih (offset + kind.width)
      rw [takeAll_cons, takeAll_cons, takeBytes_append_zeros, skip, skip, hothers]

end PayloadReader

/-! ### Writing and reading -/

/-- Fields are written and read back.  Of the fields that are offered to a buffer, one is
refused if and only if it does not fit behind those that were put before it, and then nothing
changes and the next one is offered.  In the end the buffer holds the bytes of the fields that
were put, one behind the other, each scalar with the least significant byte first, and behind
them what was there before.  The bytes that were filled are read as the fields that were put.
Zeros behind the bytes of a reader make no difference to what is read from any of them on. -/
theorem PayloadWriter.takeAll_offerAll (buffer : List UInt8) (fields : List Field) :
  let writer : PayloadWriter := ⟨buffer, 0⟩
  let outcomes := (writer.offerAll fields).1
  let after := (writer.offerAll fields).2
  let kept := Field.accepted fields outcomes
  let written := Field.encodeAll kept
  outcomes.length = fields.length ∧
    (∀ i field, fields[i]? = some field → (outcomes[i]? = some true ↔
      (Field.encodeAll (Field.accepted (fields.take i) outcomes)).length + field.kind.width ≤
        buffer.length)) ∧
    (∀ i, outcomes[i]? = some false →
      (writer.offerAll (fields.take (i + 1))).2 = (writer.offerAll (fields.take i)).2) ∧
    after.buffer = written ++ buffer.drop written.length ∧
    after.offset = written.length ∧
    (∀ (kind : ScalarKind) (value : kind.Value) (i : Nat), i < kind.width →
      (kind.encode value)[i]? = some (UInt8.ofNat (kind.toBits value / 256 ^ i))) ∧
    ((⟨after.buffer.take after.offset, 0⟩ : PayloadReader).takeAll
      (kept.map Field.kind)).map Prod.fst = kept ∧
    (∀ (bytes : List UInt8) (offset zeros : Nat) (kinds : List FieldKind),
      (⟨bytes ++ List.replicate zeros 0, offset⟩ : PayloadReader).takeAll kinds =
        (⟨bytes, offset⟩ : PayloadReader).takeAll kinds)
  := by
  intro writer outcomes after kept written
  have hfills : Fills buffer [] fields (writer.offerAll fields) :=
    fills_offerAll (Nat.zero_le _) fields
  have hafter : after = filled buffer written := hfills.after_eq
  refine ⟨hfills.length_eq, hfills.put_iff, ?_, ?_, ?_, ?_, ?_, ?_⟩
  · intro i h
    apply offerAll_take_of_refused writer h
  · rw [hafter]
    rfl
  · rw [hafter]
    rfl
  · intro kind value i h
    apply LittleEndian.getElem?_encode _ h
  · have htake : after.buffer.take after.offset = written := by
      rw [hafter]
      apply List.take_left
    rw [htake]
    apply PayloadReader.takeAll_of_sees
    apply PayloadReader.sees_self
  · intro bytes offset zeros kinds
    apply PayloadReader.takeAll_append_zeros

/-- A number of four bytes is refused by a buffer of four that holds one of two, and a byte is
put behind the latter. -/
theorem PayloadWriter.takeAll_offerAll_refusal :
  let writer : PayloadWriter := ⟨[0xee, 0xee, 0xee, 0xee], 0⟩
  let fields : List Field := [.scalar .u16 0x0102, .scalar .u32 5, .raw [7]]
  (writer.offerAll fields).1[1]? = some false ∧
    (writer.offerAll (fields.take 2)).2 = (writer.offerAll (fields.take 1)).2 ∧
    fields[2]? = some (.raw [7]) ∧
    (writer.offerAll fields).1[2]? = some true ∧
    0 < ScalarKind.u16.width ∧
    (ScalarKind.u16.encode 0x0102)[0]? = some 2 ∧
    (writer.offerAll fields).2 = ⟨[2, 1, 7, 0xee], 3⟩
  := by
  intro writer fields
  obtain ⟨-, hput, hrefused, -, -, hbytes, -⟩ :=
    takeAll_offerAll [0xee, 0xee, 0xee, 0xee] fields
  have houtcomes : (writer.offerAll fields).1 = [true, false, true] := rfl
  have hsecond : (writer.offerAll fields).1[1]? = some false := by rw [houtcomes]; rfl
  refine ⟨hsecond, hrefused 1 hsecond, rfl, ?_, by decide, ?_, ?_⟩
  · apply (hput 2 (.raw [7]) rfl).mpr
    rw [houtcomes]
    decide
  · apply hbytes .u16 0x0102 0 (by decide)
  · rfl

end FlightBus

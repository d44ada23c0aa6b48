import FlightBus.Message.Flight

/-!
# The diagnostic dialect

Message types at the corners of the wire format: an empty payload, the longest payload,
extension fields, a field with forbidden values, every kind of scalar, and a second type
under the identifier of `LinkTest`.  The bench dialect has these and the messages of the
flight dialect.
-/

namespace FlightBus

/-- A counter and a flag.  The flag is a byte that must be 0 or 1. -/
structure Probe where
  /-- The counter. -/
  counter : UInt16 := 0
  /-- The flag. -/
  flag : Bool := false
deriving DecidableEq, Repr

namespace Probe

/-- The byte of a flag. -/
def flagByte (flag : Bool) : UInt8 :=
  if flag then 1 else 0

/-- The flag of a byte, if it is the byte of one. -/
def flagOfByte? (b : UInt8) : Option Bool :=
  if b = 0 then some false else if b = 1 then some true else none

/-- The format of a probe. -/
def format : Format Probe where
  name := "PROBE"
  id := MessageId.truncate 42
  minLength := 3
  maxLength := 3
  layout := [⟨"uint16_t", "counter", 0⟩, ⟨"uint8_t", "flag", 0⟩]
  fields m := [.scalar .u16 m.counter, .scalar .u8 (flagByte m.flag)]
  read := do
    let counter ← FieldReader.scalar .u16
    let byte ← FieldReader.scalar .u8
    let flag ← FieldReader.require (flagOfByte? byte)
    return ⟨counter, flag⟩
  length_fields _ := rfl
  maxLength_le := by decide

end Probe

/-- A message without fields, under the largest identifier. -/
structure EmptyMessage where
deriving DecidableEq, Repr

/-- The format of the message without fields. -/
def EmptyMessage.format : Format EmptyMessage where
  name := "EMPTY"
  id := MessageId.truncate 16777215
  minLength := 0
  maxLength := 0
  layout := []
  fields _ := []
  read := pure {}
  length_fields _ := rfl
  maxLength_le := by decide

/-- The number of bytes of a blob. -/
def blobLength : Nat := 255

/-- A message of the greatest length, made of raw bytes. -/
structure Blob where
  /-- The bytes. -/
  data : { bytes : List UInt8 // bytes.length = blobLength }
deriving DecidableEq, Repr

namespace Blob

/-- The blob that starts with the given bytes, filled up with zeros. -/
def ofBytes (bytes : List UInt8) : Blob :=
  ⟨bytes.take blobLength ++ List.replicate (blobLength - bytes.length) 0, by
    simp
    omega⟩

/-- The format of a blob.  Its first ten bytes are base fields. -/
def format : Format Blob where
  name := "BLOB"
  id := MessageId.truncate 70000
  minLength := 10
  maxLength := 255
  layout := [⟨"uint8_t", "data", 10⟩]
  fields m := [.raw m.data.val]
  read := do
    let data ← FieldReader.raw blobLength
    return ⟨data⟩
  length_fields m := by
    simp [Field.encodeAll, Field.encode, m.data.property, blobLength]
  maxLength_le := by decide

end Blob

/-- A wide number under the identifier of `LinkTest`. -/
structure WideLinkTest where
  /-- The number. -/
  value : UInt64 := 0
deriving DecidableEq, Repr

/-- The format of a wide number, which is as long as a link test. -/
def WideLinkTest.format : Format WideLinkTest where
  name := "TEST_MESSAGE_ALT"
  id := MessageId.truncate 9000
  minLength := 8
  maxLength := 8
  layout := [⟨"uint64_t", "value", 0⟩]
  fields m := [.scalar .u64 m.value]
  read := do
    let value ← FieldReader.scalar .u64
    return ⟨value⟩
  length_fields _ := rfl
  maxLength_le := LinkTest.format.maxLength_le

/-- One scalar of every kind.  The last four are extension fields. -/
structure Scalars where
  /-- An unsigned integer of 64 bits. -/
  a : UInt64 := 0
  /-- A signed integer of 64 bits. -/
  b : Int64 := 0
  /-- A floating-point number of 64 bits. -/
  c : Double := Double.zero
  /-- An unsigned integer of 32 bits. -/
  d : UInt32 := 0
  /-- A signed integer of 32 bits. -/
  e : Int32 := 0
  /-- A floating-point number of 32 bits. -/
  f : Single := Single.zero
  /-- An unsigned integer of 16 bits. -/
  g : UInt16 := 0
  /-- A signed integer of 16 bits. -/
  h : Int16 := 0
  /-- An unsigned integer of 8 bits. -/
  i : UInt8 := 0
  /-- A signed integer of 8 bits. -/
  j : Int8 := 0
deriving DecidableEq, Repr

/-- The format of the scalars. -/
def Scalars.format : Format Scalars where
  name := "SCALARS"
  id := MessageId.truncate 200
  minLength := 36
  maxLength := 42
  layout := [⟨"uint64_t", "a", 0⟩, ⟨"int64_t", "b", 0⟩, ⟨"double", "c", 0⟩,
    ⟨"uint32_t", "d", 0⟩, ⟨"int32_t", "e", 0⟩, ⟨"float", "f", 0⟩]
  fields m := [.scalar .u64 m.a, .scalar .i64 m.b, .scalar .f64 m.c, .scalar .u32 m.d,
    .scalar .i32 m.e, .scalar .f32 m.f, .scalar .u16 m.g, .scalar .i16 m.h,
    .scalar .u8 m.i, .scalar .i8 m.j]
  read := do
    let a ← FieldReader.scalar .u64
    let b ← FieldReader.scalar .i64
    let c ← FieldReader.scalar .f64
    let d ← FieldReader.scalar .u32
    let e ← FieldReader.scalar .i32
    let f ← FieldReader.scalar .f32
    let g ← FieldReader.scalar .u16
    let h ← FieldReader.scalar .i16
    let i ← FieldReader.scalar .u8
    let j ← FieldReader.scalar .i8
    return ⟨a, b, c, d, e, f, g, h, i, j⟩
  length_fields _ := rfl
  maxLength_le := by decide

/-- The message types of the diagnostic dialect. -/
inductive DiagnosticKind
  | probe
  | empty
  | blob
  | wideLinkTest
  | scalars
deriving DecidableEq, Repr

/-- The diagnostic dialect. -/
abbrev diagnostic : Dialect where
  Kind := DiagnosticKind
  decEq := inferInstance
  Value
    | .probe => Probe
    | .empty => EmptyMessage
    | .blob => Blob
    | .wideLinkTest => WideLinkTest
    | .scalars => Scalars
  format
    | .probe => Probe.format
    | .empty => EmptyMessage.format
    | .blob => Blob.format
    | .wideLinkTest => WideLinkTest.format
    | .scalars => Scalars.format

/-- The dialect of a test bench: the messages of flight and the diagnostic messages. -/
abbrev bench : Dialect := flight.sum diagnostic

end FlightBus

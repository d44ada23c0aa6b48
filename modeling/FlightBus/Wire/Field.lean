import FlightBus.Wire.Scalar

/-!
# Payload fields

A payload is a sequence of fields without gaps, each a scalar or a byte string.  A
`PayloadWriter` puts fields one behind the other into a buffer of fixed size and refuses
those that do not fit.  A `PayloadReader` takes fields from a byte string, which it regards
as continued by zeros without end.
-/

namespace FlightBus

/-- A field of a payload: a scalar or a byte string. -/
inductive Field
  | scalar (kind : ScalarKind) (value : kind.Value)
  | raw (bytes : List UInt8)

/-- What is needed to read a field: the kind of a scalar or the length of a byte string. -/
inductive FieldKind
  | scalar (kind : ScalarKind)
  | raw (length : Nat)
deriving DecidableEq, Repr

/-- The number of bytes of a field of a kind. -/
def FieldKind.width : FieldKind → Nat
  | scalar kind => kind.width
  | raw length => length

/-- The field of a kind that a byte string holds. -/
def FieldKind.decode : FieldKind → List UInt8 → Field
  | scalar kind, bytes => .scalar kind (kind.decode bytes)
  | raw _, bytes => .raw bytes

namespace Field

/-- The kind of a field. -/
def kind : Field → FieldKind
  | scalar kind _ => .scalar kind
  | raw bytes => .raw bytes.length

/-- The bytes of a field. -/
def encode : Field → List UInt8
  | scalar kind value => kind.encode value
  | raw bytes => bytes

/-- The bytes of a sequence of fields, one behind the other. -/
def encodeAll (fields : List Field) : List UInt8 :=
  fields.flatMap encode

theorem length_encode (field : Field) :
  field.encode.length = field.kind.width
  := by
  cases field with
  | scalar kind value => apply ScalarKind.length_encode
  | raw bytes => rfl

theorem decode_encode (field : Field) :
  field.kind.decode field.encode = field
  := by
  cases field with
  | scalar kind value => simp [Field.kind, FieldKind.decode, encode, kind.decode_encode]
  | raw bytes => rfl

end Field

/-- The byte string with the bytes from `offset` on replaced by those of `value`. -/
def overwrite (bytes : List UInt8) (offset : Nat) (value : List UInt8) : List UInt8 :=
  bytes.take offset ++ value ++ bytes.drop (offset + value.length)

theorem length_overwrite {bytes value : List UInt8} {offset : Nat}
    (fits : offset + value.length ≤ bytes.length) :
  (overwrite bytes offset value).length = bytes.length
  := by
  simp [overwrite]
  omega

/-- A buffer that is filled from its start. -/
structure PayloadWriter where
  /-- The contents of the whole buffer. -/
  buffer : List UInt8
  /-- The number of bytes filled. -/
  offset : Nat := 0
deriving DecidableEq, Repr

namespace PayloadWriter

/-- The writer after the given bytes were put behind those filled, if there is room. -/
def putBytes? (writer : PayloadWriter) (bytes : List UInt8) : Option PayloadWriter :=
  if writer.offset + bytes.length ≤ writer.buffer.length then
    some ⟨overwrite writer.buffer writer.offset bytes, writer.offset + bytes.length⟩
  else
    none

/-- The writer after a field was put behind the bytes filled, if there is room. -/
def put? (writer : PayloadWriter) (field : Field) : Option PayloadWriter :=
  writer.putBytes? field.encode

end PayloadWriter

/-- A byte string that is read from its start. -/
structure PayloadReader where
  /-- The whole byte string. -/
  bytes : List UInt8
  /-- The number of bytes read, which may exceed the number of bytes present. -/
  offset : Nat := 0
deriving DecidableEq, Repr

namespace PayloadReader

/-- The number of bytes present that were not read. -/
def unread (reader : PayloadReader) : Nat :=
  reader.bytes.length - reader.offset

/-- The next `count` bytes and the reader behind them. -/
def takeBytes (reader : PayloadReader) (count : Nat) : List UInt8 × PayloadReader :=
  let present := (reader.bytes.drop reader.offset).take count
  (present ++ List.replicate (count - present.length) 0,
    ⟨reader.bytes, reader.offset + count⟩)

/-- The next scalar of a kind and the reader behind it. -/
def takeScalar (reader : PayloadReader) (kind : ScalarKind) : kind.Value × PayloadReader :=
  let (bytes, reader) := reader.takeBytes kind.width
  (kind.decode bytes, reader)

/-- The next field of a kind and the reader behind it. -/
def take (reader : PayloadReader) (kind : FieldKind) : Field × PayloadReader :=
  let (bytes, reader) := reader.takeBytes kind.width
  (kind.decode bytes, reader)

@[simp]
theorem length_takeBytes (reader : PayloadReader) (count : Nat) :
  (reader.takeBytes count).1.length = count
  := by
  simp only [takeBytes, List.length_append, List.length_replicate]
  apply Nat.add_sub_of_le
  apply List.length_take_le

end PayloadReader

end FlightBus

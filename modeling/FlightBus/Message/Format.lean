import FlightBus.Message.Descriptor
import FlightBus.Wire.Checksum
import FlightBus.Wire.Field

/-!
# Message formats

A format says how the values of a message type are laid out in a payload and how they are
read back.  It comes with the facts that every value fills the full payload and that the
full payload fits into a frame.  A dialect is a family of message types with their
formats; a message of the dialect is a value together with its type.
-/

namespace FlightBus

/-- The reasons why a payload does not hold a value of a message type. -/
inductive PayloadError
  /-- A field holds a value outside its domain. -/
  | fieldValue
  /-- The payload is longer than the message type allows. -/
  | length
deriving DecidableEq, Repr

/-- A computation that reads the fields of a payload in wire order. -/
abbrev FieldReader := StateT PayloadReader (Except PayloadError)

namespace FieldReader

/-- Reads a scalar. -/
def scalar (kind : ScalarKind) : FieldReader kind.Value :=
  fun reader => .ok (reader.takeScalar kind)

/-- Reads a byte string of a given length. -/
def raw (length : Nat) : FieldReader { bytes : List UInt8 // bytes.length = length } :=
  fun reader =>
    .ok (⟨(reader.takeBytes length).1, reader.length_takeBytes length⟩,
      (reader.takeBytes length).2)

/-- Takes a value that a field may hold, and fails if the field holds another. -/
def require {α : Type} : Option α → FieldReader α
  | some value => pure value
  | none => throw .fieldValue

end FieldReader

/-- The format of the message type whose values are those of `α`. -/
structure Format (α : Type) where
  /-- The name of the message type. -/
  name : String
  /-- The identifier of the message type. -/
  id : MessageId
  /-- The length of the base fields. -/
  minLength : Nat
  /-- The length of the full payload, extension fields included. -/
  maxLength : Nat
  /-- The base fields in wire order, as the extra byte of the checksum covers them. -/
  layout : List LayoutField
  /-- The fields of a value in wire order. -/
  fields : α → List Field
  /-- Reads a value from the fields of a payload. -/
  read : FieldReader α
  /-- The fields of every value fill the full payload. -/
  length_fields : ∀ value, (Field.encodeAll (fields value)).length = maxLength
  /-- A full payload fits into a frame. -/
  maxLength_le : maxLength ≤ payloadLimit

namespace Format

variable {α : Type}

/-- The extra byte that the layout contributes to the checksum. -/
def crcExtra (format : Format α) : UInt8 :=
  Checksum.extra format.name format.layout

/-- The descriptor of the message type. -/
def descriptor (format : Format α) : Descriptor :=
  ⟨format.id, format.minLength, format.maxLength, format.crcExtra⟩

/-- The full payload of a value: its fields in wire order. -/
def fullPayload (format : Format α) (value : α) : List UInt8 :=
  Field.encodeAll (format.fields value)

/-- The value that a payload holds.  A short payload is continued by zeros. -/
def parse (format : Format α) (payload : List UInt8) : Except PayloadError α :=
  (format.read ⟨payload, 0⟩).map Prod.fst

@[simp]
theorem length_fullPayload (format : Format α) (value : α) :
  (format.fullPayload value).length = format.maxLength
  := by
  apply format.length_fields

end Format

/-- A family of message types. -/
structure Dialect where
  /-- The message types. -/
  Kind : Type
  /-- Message types can be told apart. -/
  decEq : DecidableEq Kind
  /-- The values of a message type. -/
  Value : Kind → Type
  /-- The format of a message type. -/
  format : (kind : Kind) → Format (Value kind)

instance (D : Dialect) : DecidableEq D.Kind := D.decEq

/-- A message of a dialect: a value together with its message type. -/
abbrev Dialect.Message (D : Dialect) := (kind : D.Kind) × D.Value kind

/-- The dialect with the message types of two dialects. -/
abbrev Dialect.sum (D E : Dialect) : Dialect where
  Kind := D.Kind ⊕ E.Kind
  decEq := inferInstance
  Value := Sum.elim D.Value E.Value
  format
    | .inl kind => D.format kind
    | .inr kind => E.format kind

end FlightBus

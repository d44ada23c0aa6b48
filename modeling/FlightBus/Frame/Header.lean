import FlightBus.Frame.Basic

/-!
# Headers

The header of a frame starts with the marker of the version and the length of the
payload.  In the first version there follow the sequence number, the system, the
component and a message type of one byte; in the second version two bytes of flags, the
sequence number, the system, the component and a message type of three bytes.
-/

namespace FlightBus

/-- The number of bytes of the header of a frame. -/
def Version.headerSize : Version → Nat
  | v1 => 6
  | v2 => 10

/-- The header of a frame. -/
structure Header where
  /-- The version of the protocol. -/
  version : Version
  /-- The number of bytes of the payload. -/
  payloadLength : UInt8
  /-- The flags that a receiver must understand. -/
  incompatFlags : UInt8
  /-- The flags that a receiver may ignore. -/
  compatFlags : UInt8
  /-- The sequence number. -/
  sequence : UInt8
  /-- The system that emits the frame. -/
  system : SystemId
  /-- The component that emits the frame. -/
  component : ComponentId
  /-- The message type. -/
  message : MessageId
deriving DecidableEq, Repr

/-- The flag that announces a signature. -/
def signedFlag : UInt8 := 0x01

/-- The flags of the first sort, those that a receiver must understand, which this library
understands. -/
def supportedFlags : UInt8 := signedFlag

namespace Header

/-- The bytes of a header.  The first version drops the flags and all but the low byte of
the message type. -/
def bytes (header : Header) : List UInt8 :=
  match header.version with
  | .v1 => [header.version.marker, header.payloadLength, header.sequence,
      header.system.byte, header.component.byte, header.message.lowByte]
  | .v2 => [header.version.marker, header.payloadLength, header.incompatFlags,
      header.compatFlags, header.sequence, header.system.byte, header.component.byte] ++
      header.message.bytes

@[simp]
theorem length_bytes (header : Header) :
  header.bytes.length = header.version.headerSize
  := by
  unfold bytes
  cases header.version <;> rfl

/-- The header of a given version at the start of a byte string, together with the bytes
behind it, if the string is long enough.  The first byte, the marker, is not looked at. -/
def read? : Version → List UInt8 → Option (Header × List UInt8)
  | .v1, _ :: length :: sequence :: system :: component :: id :: body =>
      some (⟨.v1, length, 0, 0, sequence, ⟨system⟩, ⟨component⟩,
        MessageId.ofByte id⟩, body)
  | .v2, _ :: length :: incompat :: compat :: sequence :: system :: component ::
      id₀ :: id₁ :: id₂ :: body =>
      some (⟨.v2, length, incompat, compat, sequence, ⟨system⟩, ⟨component⟩,
        MessageId.ofBytes id₀ id₁ id₂⟩, body)
  | _, _ => none

/-- Whether a signature follows the checksum. -/
def isSigned (header : Header) : Bool :=
  header.incompatFlags &&& signedFlag ≠ 0

/-- Whether a header has flags that this library does not understand. -/
def hasUnsupportedFlags (header : Header) : Bool :=
  header.incompatFlags &&& ~~~supportedFlags ≠ 0

/-- Whether a message type can have a payload of the announced length.  The first version
knows neither extension fields nor cut payloads. -/
def admitsLength (header : Header) (descriptor : Descriptor) : Bool :=
  match header.version with
  | .v1 => header.payloadLength.toNat = descriptor.minLength
  | .v2 => header.payloadLength.toNat ≤ descriptor.maxLength

/-- The number of bytes of the signature that a header announces. -/
def announcedSignature (header : Header) : Nat :=
  if header.isSigned then Signature.size else 0

end Header

end FlightBus

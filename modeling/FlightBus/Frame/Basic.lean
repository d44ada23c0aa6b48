import FlightBus.Message.Descriptor

/-!
# Frames

A frame carries one message over a byte stream.  The protocol has two versions, and the
byte that starts a frame, its marker, tells which.  Frames of the second version have
flags, message types of 24 bits, and possibly a signature, which nobody here verifies.
-/

namespace FlightBus

/-- The versions of the protocol. -/
inductive Version
  | v1
  | v2
deriving DecidableEq, Repr

namespace Version

/-- The byte that starts a frame. -/
def marker : Version → UInt8
  | v1 => 0xfe
  | v2 => 0xfd

/-- The version whose frames a byte starts, if there is one. -/
def ofMarker? (b : UInt8) : Option Version :=
  if b = v1.marker then some v1 else if b = v2.marker then some v2 else none

/-- The number of a version. -/
def toNat : Version → Nat
  | v1 => 1
  | v2 => 2

theorem ofMarker?_marker (version : Version) :
  ofMarker? version.marker = some version
  := by
  cases version <;> rfl

theorem marker_of_ofMarker? {b : UInt8} {version : Version}
    (h : ofMarker? b = some version) :
  version.marker = b
  := by
  unfold ofMarker? at h
  split at h
  · cases h
    symm
    assumption
  · split at h
    · cases h
      symm
      assumption
    · contradiction

end Version

/-- A byte string that fits into a frame. -/
structure Payload where
  /-- The bytes. -/
  bytes : List UInt8
  /-- There are not more of them than a frame can carry. -/
  length_le : bytes.length ≤ payloadLimit
deriving DecidableEq, Repr

/-- The payload without bytes. -/
def Payload.empty : Payload :=
  ⟨[], by decide⟩

/-- The number of bytes of a signature. -/
def Signature.size : Nat := 13

/-- A signature block. -/
structure Signature where
  /-- The bytes. -/
  bytes : List UInt8
  /-- There are as many of them as a signature has. -/
  length_eq : bytes.length = Signature.size
deriving DecidableEq, Repr

/-- The signature of the given bytes, if they are as many as a signature has. -/
def Signature.ofBytes? (bytes : List UInt8) : Option Signature :=
  if h : bytes.length = Signature.size then some ⟨bytes, h⟩ else none

/-- A frame.  Its payload is what is on the wire, which may lack trailing zeros of the full
payload of the message type. -/
structure Frame where
  /-- The version of the protocol. -/
  version : Version := .v2
  /-- The flags that a receiver must understand. -/
  incompatFlags : UInt8 := 0
  /-- The flags that a receiver may ignore. -/
  compatFlags : UInt8 := 0
  /-- The sequence number. -/
  sequence : UInt8 := 0
  /-- The system that emits the frame. -/
  system : SystemId
  /-- The component that emits the frame. -/
  component : ComponentId
  /-- The message type. -/
  message : MessageId
  /-- The payload. -/
  payload : Payload := Payload.empty
  /-- The signature of a signed frame. -/
  signature : Option Signature := none
deriving DecidableEq, Repr

namespace Frame

/-- The frame with a payload of the given bytes, if they fit. -/
def withPayload? (frame : Frame) (bytes : List UInt8) : Option Frame :=
  if h : bytes.length ≤ payloadLimit then
    some { frame with payload := ⟨bytes, h⟩ }
  else
    none

/-- The routing key of a frame. -/
def key (frame : Frame) : RoutingKey :=
  ⟨frame.message, frame.system, frame.component⟩

/-- Whether a frame carries a signature. -/
def isSigned (frame : Frame) : Bool :=
  frame.signature.isSome

end Frame

end FlightBus

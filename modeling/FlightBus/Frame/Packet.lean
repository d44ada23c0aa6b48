import FlightBus.Frame.Header
import FlightBus.Message.Format

/-!
# Packets

On the wire a frame is its header, its payload, the checksum of both without the marker,
and its signature if it has one.  A packet is a buffer with room for any frame, in which
there may be left what was written before.

`Frame.encode` writes a frame into a packet as it is.  `Format.encode` writes a message as
a frame of the second version whose payload lacks the trailing zeros, but is not empty
unless the full payload is.
-/

namespace FlightBus

/-! ### Trailing zeros -/

/-- The number of bytes up to the last that is not zero. -/
def significantLength (payload : List UInt8) : Nat :=
  (payload.reverse.dropWhile (· = 0)).length

/-- The number of bytes that are sent of a full payload: all up to the last that is not
zero, and at least one if there is one. -/
def sentLength (payload : List UInt8) : Nat :=
  min (max (significantLength payload) 1) payload.length

theorem sentLength_le (payload : List UInt8) :
  sentLength payload ≤ payload.length
  := by
  apply Nat.min_le_right

/-! ### Packets -/

/-- The number of bytes of a packet: the longest header, the longest payload, the checksum
and the signature. -/
def Packet.size : Nat :=
  Version.v2.headerSize + payloadLimit + Checksum.size + Signature.size

/-- A buffer with room for any frame. -/
structure Packet where
  /-- The contents of the whole buffer. -/
  bytes : List UInt8
  /-- The buffer has a fixed size. -/
  length_eq : bytes.length = Packet.size
deriving DecidableEq, Repr

namespace Packet

/-- The packet of zeros. -/
def blank : Packet :=
  ⟨List.replicate size 0, List.length_replicate⟩

/-- The packet with the bytes from `offset` on replaced by those of `value`, for which there
must be room. -/
def store (packet : Packet) (offset : Nat) (value : List UInt8)
    (fits : offset + value.length ≤ size) : Packet :=
  ⟨overwrite packet.bytes offset value, by
    rw [length_overwrite (by rw [packet.length_eq]; exact fits), packet.length_eq]⟩

/-- The bytes from `start` up to `stop`. -/
def slice (packet : Packet) (start stop : Nat) : List UInt8 :=
  (packet.bytes.take stop).drop start

end Packet

/-- A frame at the start of a packet. -/
structure Encoded where
  /-- The packet. -/
  packet : Packet
  /-- The number of bytes of the frame. -/
  length : Nat

/-- The bytes of a frame at the start of a packet. -/
def Encoded.bytes (encoded : Encoded) : List UInt8 :=
  encoded.packet.slice 0 encoded.length

/-! ### Encoding a frame -/

/-- Writes a header and a payload to the start of a packet, and their checksum behind
them. -/
def Packet.storeFrame (packet : Packet) (header : Header) (payload : Payload)
    (crcExtra : UInt8) : Packet :=
  let start := header.version.headerSize
  let stop := start + payload.bytes.length
  have hstop : stop + Checksum.size ≤ Packet.size := by
    have := payload.length_le
    unfold Packet.size
    unfold stop start
    cases header.version <;> simp only [Version.headerSize] <;> omega
  let packet := packet.store 0 header.bytes (by
    rw [Header.length_bytes]
    omega)
  let packet := packet.store start payload.bytes (by omega)
  let checksum := Checksum.ofFrame (packet.slice 1 stop) crcExtra
  packet.store stop (LittleEndian.encode Checksum.size checksum.toNat) (by
    rw [LittleEndian.length_encode]
    exact hstop)

namespace Frame

/-- The header of a frame.  In the second version the flag that announces a signature says
whether there is one, whatever the flags of the frame say. -/
def header (frame : Frame) : Header where
  version := frame.version
  payloadLength := UInt8.ofNat frame.payload.bytes.length
  incompatFlags :=
    match frame.version, frame.signature with
    | .v1, _ => 0
    | .v2, some _ => frame.incompatFlags ||| signedFlag
    | .v2, none => frame.incompatFlags &&& ~~~signedFlag
  compatFlags :=
    match frame.version with
    | .v1 => 0
    | .v2 => frame.compatFlags
  sequence := frame.sequence
  system := frame.system
  component := frame.component
  message := frame.message

/-- Writes a frame to the start of a packet.  A frame of the first version loses its flags,
its signature and all but the low byte of its message type. -/
def encode (frame : Frame) (crcExtra : UInt8) (packet : Packet) : Encoded :=
  let packet := packet.storeFrame frame.header frame.payload crcExtra
  let stop := frame.version.headerSize + frame.payload.bytes.length + Checksum.size
  match hversion : frame.version, frame.signature with
  | .v2, some signature =>
      ⟨packet.store stop signature.bytes (by
        have := frame.payload.length_le
        rw [signature.length_eq]
        unfold stop Packet.size
        rw [hversion]
        omega), stop + Signature.size⟩
  | _, _ => ⟨packet, stop⟩

end Frame

/-! ### Encoding a message -/

namespace Format

variable {α : Type}

/-- The payload of a value as it is sent. -/
def payload (format : Format α) (value : α) : Payload :=
  let full := format.fullPayload value
  ⟨full.take (sentLength full), by
    have hfull : full.length = format.maxLength := format.length_fullPayload value
    have := format.maxLength_le
    rw [List.length_take]
    omega⟩

/-- The frame of a value: of the second version, without flags and without a signature. -/
def frame (format : Format α) (value : α) (system : SystemId) (component : ComponentId)
    (sequence : UInt8) : Frame where
  sequence := sequence
  system := system
  component := component
  message := format.id
  payload := format.payload value

/-- The header of the frame of a value. -/
def header (format : Format α) (value : α) (system : SystemId) (component : ComponentId)
    (sequence : UInt8) : Header where
  version := .v2
  payloadLength := UInt8.ofNat (sentLength (format.fullPayload value))
  incompatFlags := 0
  compatFlags := 0
  sequence := sequence
  system := system
  component := component
  message := format.id

/-- Writes a value as a frame to the start of a packet.  The full payload is written first,
and the checksum goes over what is not sent of it. -/
def encode (format : Format α) (value : α) (system : SystemId) (component : ComponentId)
    (sequence : UInt8) (packet : Packet) : Encoded :=
  let full := format.fullPayload value
  let start := Version.v2.headerSize
  let stop := start + sentLength full
  have hfull : start + full.length + Checksum.size ≤ Packet.size := by
    have hlength : full.length = format.maxLength := format.length_fullPayload value
    have := format.maxLength_le
    unfold Packet.size
    unfold start
    omega
  have hstop : stop ≤ start + full.length := by
    have := sentLength_le full
    omega
  let packet := packet.store start full (by omega)
  let packet := packet.store 0 (format.header value system component sequence).bytes (by
    rw [Header.length_bytes]
    change 0 + start ≤ Packet.size
    omega)
  let checksum := Checksum.ofFrame (packet.slice 1 stop) format.crcExtra
  let packet := packet.store stop (LittleEndian.encode Checksum.size checksum.toNat) (by
    rw [LittleEndian.length_encode]
    omega)
  ⟨packet, stop + Checksum.size⟩

end Format

end FlightBus

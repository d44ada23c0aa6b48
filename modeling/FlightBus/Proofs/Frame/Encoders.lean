import FlightBus.Proofs.Frame.Bounds
import FlightBus.Proofs.Message.Decoding

/-!
# The two encoders

A message can be written into a packet as it is, or its frame can be.  The first encoder lets
the fields of the message fill the place of the full payload, and covers with the checksum what
is not sent of it; the second prepares the header in a scratch buffer and copies it and the
payload.  Both leave the same bytes, and nothing that was in the packet before is sent.

Here the work of both is done in a buffer with a check in front of every access, and it fails
when a check does.  In a buffer of the size of a packet no check fails.
-/

namespace FlightBus

/-! ### Checked writes -/

/-- The byte string with the bytes from `start` up to `stop` replaced by those of `value`, if
all of them are there and there are as many new ones. -/
def replace? (bytes : List UInt8) (start stop : Nat) (value : List UInt8) :
    Option (List UInt8) :=
  if start ≤ stop ∧ stop ≤ bytes.length ∧ value.length = stop - start then
    some (overwrite bytes start value)
  else
    none

theorem replace?_eq {bytes value : List UInt8} {start : Nat}
    (fits : start + value.length ≤ bytes.length) :
  replace? bytes start (start + value.length) value = some (overwrite bytes start value)
  := if_pos ⟨Nat.le_add_right _ _, fits, (Nat.add_sub_cancel_left _ _).symm⟩

/-- The byte string after writes, each of a value from its offset on, if there is room for all
of them. -/
def replaceAll? (bytes : List UInt8) (writes : List (Nat × List UInt8)) :
    Option (List UInt8) :=
  writes.foldlM (fun bytes (offset, value) => replace? bytes offset (offset + value.length) value)
    bytes

namespace Packet

/-- In a packet, a checked write is a store. -/
theorem replace?_eq_store (packet : Packet) {start stop : Nat} {value : List UInt8}
    (fits : start + value.length ≤ size) (hstop : start + value.length = stop) :
  replace? packet.bytes start stop value = some (packet.store start value fits).bytes
  := by
  rw [← hstop]
  apply replace?_eq
  rw [packet.length_eq]
  apply fits

theorem slice?_eq_slice (packet : Packet) {start stop : Nat} (hstart : start ≤ stop)
    (hstop : stop ≤ size) :
  slice? packet.bytes start stop = some (packet.slice start stop)
  := by
  apply slice?_eq hstart
  rw [packet.length_eq]
  apply hstop

end Packet

/-! ### Writing frames -/

/-- Writes the checksum of the bytes up to `stop`, without the first, behind them. -/
def sealAt? (buffer : List UInt8) (stop : Nat) (crcExtra : UInt8) : Option (List UInt8) := do
  let covered ← slice? buffer 1 stop
  let checksum := Checksum.ofFrame covered crcExtra
  replace? buffer stop (stop + Checksum.size)
    (LittleEndian.encode Checksum.size checksum.toNat)

/-- In a packet, the checksum is stored. -/
theorem Packet.sealAt?_eq (packet : Packet) (stop : Nat) (crcExtra : UInt8) (hpos : 1 ≤ stop)
    (fits : stop + (LittleEndian.encode Checksum.size
      (Checksum.ofFrame (packet.slice 1 stop) crcExtra).toNat).length ≤ size) :
  sealAt? packet.bytes stop crcExtra =
    some (packet.store stop (LittleEndian.encode Checksum.size
      (Checksum.ofFrame (packet.slice 1 stop) crcExtra).toNat) fits).bytes
  := by
  have hstop := fits
  rw [LittleEndian.length_encode] at hstop
  rw [sealAt?, packet.slice?_eq_slice hpos (Nat.le_of_add_right_le hstop)]
  apply packet.replace?_eq_store fits
  rw [LittleEndian.length_encode]

namespace Frame

/-- The writes that prepare the header of a frame in a scratch buffer. -/
def headerWrites (frame : Frame) : List (Nat × List UInt8) :=
  (0, [frame.version.marker]) :: (1, [UInt8.ofNat frame.payload.bytes.length]) ::
    match frame.version with
    | .v1 => [(2, [frame.sequence]), (3, [frame.system.byte]), (4, [frame.component.byte]),
        (5, [frame.message.lowByte])]
    | .v2 => [(2, [frame.header.incompatFlags]), (3, [frame.compatFlags]),
        (4, [frame.sequence]), (5, [frame.system.byte]), (6, [frame.component.byte]),
        (7, frame.message.bytes)]

/-- Writes the header, the payload and the checksum of a frame to the start of a buffer, with
checked accesses.  The header is prepared in a scratch buffer that has room for that of either
version. -/
def store? (frame : Frame) (crcExtra : UInt8) (buffer : List UInt8) : Option (List UInt8) := do
  let start := frame.version.headerSize
  let scratch ← replaceAll? (List.replicate Version.v2.headerSize 0) frame.headerWrites
  let header ← slice? scratch 0 start
  let buffer ← replace? buffer 0 start header
  let stop := start + frame.payload.bytes.length
  let buffer ← replace? buffer start stop frame.payload.bytes
  sealAt? buffer stop crcExtra

/-- Writes a frame to the start of a buffer, with checked accesses, and gives the number of its
bytes. -/
def encode? (frame : Frame) (crcExtra : UInt8) (buffer : List UInt8) :
    Option (List UInt8 × Nat) := do
  let buffer ← frame.store? crcExtra buffer
  let length := frame.version.headerSize + frame.payload.bytes.length + Checksum.size
  match frame.version, frame.signature with
  | .v2, some signature => do
      let buffer ← replace? buffer length (length + signature.bytes.length) signature.bytes
      return (buffer, length + signature.bytes.length)
  | _, _ => return (buffer, length)

/-- The header is prepared at the start of the scratch buffer. -/
theorem replaceAll?_headerWrites (frame : Frame) :
  replaceAll? (List.replicate Version.v2.headerSize 0) frame.headerWrites =
    some (frame.header.bytes ++
      List.replicate (Version.v2.headerSize - frame.version.headerSize) 0)
  := by
  rcases frame with ⟨version, incompat, compat, sequence, system, component, id, payload,
    signature⟩
  cases version with
  | v1 =>
      simp [replaceAll?, headerWrites, replace?, overwrite, Version.headerSize, header,
        Header.bytes, List.replicate]
  | v2 =>
      simp [replaceAll?, headerWrites, replace?, overwrite, Version.headerSize, header,
        Header.bytes, MessageId.bytes, List.replicate]

theorem slice?_scratch (frame : Frame) :
  slice? (frame.header.bytes ++
      List.replicate (Version.v2.headerSize - frame.version.headerSize) 0) 0
      frame.version.headerSize = some frame.header.bytes
  := by
  have hlength : frame.header.bytes.length = frame.version.headerSize :=
    Header.length_bytes _
  rw [slice?_eq (Nat.zero_le _), List.drop_zero, List.take_left' hlength]
  rw [List.length_append, hlength]
  apply Nat.le_add_right

/-- In a packet, the header, the payload and the checksum are stored. -/
theorem store?_eq (frame : Frame) (crcExtra : UInt8) (packet : Packet) :
  frame.store? crcExtra packet.bytes =
    some (packet.storeFrame frame.header frame.payload crcExtra).bytes
  := by
  have hheader : frame.header.bytes.length = frame.version.headerSize :=
    Header.length_bytes _
  have hstart : 1 ≤ frame.version.headerSize ∧ frame.version.headerSize ≤ 10 := by
    cases frame.version <;> decide
  have hpayload : frame.payload.bytes.length ≤ 255 := frame.payload.length_le
  have hsize : Packet.size = 280 := rfl
  have hchecksum : Checksum.size = 2 := rfl
  have hfront : 0 + frame.header.bytes.length ≤ Packet.size := by omega
  have hbody : frame.version.headerSize + frame.payload.bytes.length ≤ Packet.size := by omega
  let first := packet.store 0 frame.header.bytes hfront
  let second := first.store frame.version.headerSize frame.payload.bytes hbody
  have hfirst : replace? packet.bytes 0 frame.version.headerSize frame.header.bytes =
      some first.bytes := packet.replace?_eq_store hfront (by omega)
  have hsecond : replace? first.bytes frame.version.headerSize
      (frame.version.headerSize + frame.payload.bytes.length) frame.payload.bytes =
        some second.bytes := first.replace?_eq_store hbody rfl
  simp only [store?, replaceAll?_headerWrites, Option.bind_eq_bind, Option.bind_some,
    slice?_scratch, hfirst, hsecond]
  refine second.sealAt?_eq _ crcExtra (by omega) ?_
  rw [LittleEndian.length_encode]
  omega

/-- In a packet, a frame is written as it is without checks. -/
theorem encode?_eq (frame : Frame) (crcExtra : UInt8) (packet : Packet) :
  frame.encode? crcExtra packet.bytes =
    some ((frame.encode crcExtra packet).packet.bytes, (frame.encode crcExtra packet).length)
  := by
  rw [encode?, store?_eq, Option.bind_eq_bind, Option.bind_some]
  rcases frame with ⟨version, incompat, compat, sequence, system, component, id, payload,
    signature⟩
  cases version with
  | v1 => rfl
  | v2 =>
      cases signature with
      | none => rfl
      | some signature =>
          have hpayload : payload.bytes.length ≤ 255 := payload.length_le
          have hsignature : signature.bytes.length = 13 := signature.length_eq
          have hbehind : Version.v2.headerSize + payload.bytes.length + Checksum.size +
              signature.bytes.length ≤ Packet.size := by
            rw [hsignature, Version.headerSize, Checksum.size]
            change _ ≤ 280
            omega
          dsimp only
          rw [Packet.replace?_eq_store _ hbehind rfl, Option.bind_some, signature.length_eq]
          rfl

end Frame

/-! ### Writing messages -/

namespace Format

variable {α : Type}

/-- Writes a value as a frame to the start of a buffer, with checked accesses, and gives the
number of its bytes.  The fields are written one by one into the place of the full payload. -/
def encode? (format : Format α) (value : α) (system : SystemId) (component : ComponentId)
    (sequence : UInt8) (buffer : List UInt8) : Option (List UInt8 × Nat) := do
  let start := Version.v2.headerSize
  let place ← slice? buffer start (start + format.maxLength)
  let writer ← PayloadWriter.putAll? ⟨place, 0⟩ (format.fields value)
  let buffer ← replace? buffer start (start + format.maxLength) writer.buffer
  let sent := sentLength writer.buffer
  let header := [Version.v2.marker, UInt8.ofNat sent, 0, 0, sequence, system.byte,
    component.byte] ++ format.id.bytes
  let buffer ← replace? buffer 0 start header
  let stop := start + sent
  let buffer ← sealAt? buffer stop format.crcExtra
  return (buffer, stop + Checksum.size)

/-- The fields of a value leave nothing of what was in the place of the full payload. -/
theorem putAll?_place (format : Format α) (value : α) {place : List UInt8}
    (h : place.length = format.maxLength) :
  PayloadWriter.putAll? ⟨place, 0⟩ (format.fields value) =
    some ⟨format.fullPayload value, format.maxLength⟩
  := by
  rw [putAll?_fields, if_pos h.ge, ← h, List.drop_length, List.append_nil]

/-- In a packet, a value is written as it is without checks. -/
theorem encode?_eq (format : Format α) (value : α) (system : SystemId) (component : ComponentId)
    (sequence : UInt8) (packet : Packet) :
  format.encode? value system component sequence packet.bytes =
    some ((format.encode value system component sequence packet).packet.bytes,
      (format.encode value system component sequence packet).length)
  := by
  have hstart : Version.v2.headerSize = 10 := rfl
  have hsize : Packet.size = 280 := rfl
  have hchecksum : Checksum.size = 2 := rfl
  have hmax : format.maxLength ≤ 255 := format.maxLength_le
  have hfull := format.length_fullPayload value
  have hsent := sentLength_le (format.fullPayload value)
  have hheader : (format.header value system component sequence).bytes.length =
      Version.v2.headerSize := Header.length_bytes _
  have hbody : Version.v2.headerSize + (format.fullPayload value).length ≤ Packet.size := by
    omega
  have hfront : 0 + (format.header value system component sequence).bytes.length ≤
      Packet.size := by
    omega
  let first := packet.store Version.v2.headerSize (format.fullPayload value) hbody
  let second := first.store 0 (format.header value system component sequence).bytes hfront
  let place := packet.slice Version.v2.headerSize (Version.v2.headerSize + format.maxLength)
  have hplace : slice? packet.bytes Version.v2.headerSize
      (Version.v2.headerSize + format.maxLength) = some place :=
    packet.slice?_eq_slice (by omega) (by omega)
  have hlength : place.length = format.maxLength := by
    unfold place
    rw [Packet.slice, List.length_drop, List.length_take, packet.length_eq]
    omega
  have hfirst : replace? packet.bytes Version.v2.headerSize
      (Version.v2.headerSize + format.maxLength) (format.fullPayload value) =
        some first.bytes := packet.replace?_eq_store hbody (by rw [hfull])
  have hsecond : replace? first.bytes 0 Version.v2.headerSize
      (format.header value system component sequence).bytes = some second.bytes :=
    first.replace?_eq_store hfront (by omega)
  have hbytes : [Version.v2.marker, UInt8.ofNat (sentLength (format.fullPayload value)), 0, 0,
      sequence, system.byte, component.byte] ++ format.id.bytes =
        (format.header value system component sequence).bytes := rfl
  have hseal := second.sealAt?_eq (Version.v2.headerSize + sentLength (format.fullPayload value))
    format.crcExtra (by omega) (by rw [LittleEndian.length_encode]; omega)
  simp only [encode?, hplace, format.putAll?_place value hlength, Option.bind_eq_bind,
    Option.bind_some, hfirst, hbytes, hsecond, hseal]
  rfl

end Format

/-! ### The bytes that are sent -/

/-- The same bytes are sent of two packets. -/
structure Encoded.Agrees (first second : Encoded) : Prop where
  length_eq : first.length = second.length
  bytes_eq : first.bytes = second.bytes

namespace Frame

theorem length_encode (frame : Frame) (crcExtra : UInt8) (packet : Packet) :
  (frame.encode crcExtra packet).length = (frame.wire crcExtra).length
  := by
  rw [wire, List.length_append, length_withChecksum, List.length_append, Header.length_bytes]
  rcases frame with ⟨version, incompat, compat, sequence, system, component, id, payload,
    signature⟩
  cases version with
  | v1 => rfl
  | v2 =>
      cases signature with
      | none => rfl
      | some signature =>
          change _ + Signature.size = _ + signature.bytes.length
          rw [signature.length_eq]
          rfl

theorem length_wire_le (frame : Frame) (crcExtra : UInt8) :
  (frame.wire crcExtra).length ≤ Packet.size
  := by
  rw [length_wire]
  apply Header.frameLength_le

/-- What is sent of a frame does not depend on what was in the packet. -/
theorem agrees_encode (frame : Frame) (crcExtra : UInt8) (packet other : Packet) :
  (frame.encode crcExtra packet).Agrees (frame.encode crcExtra other)
  := by
  constructor
  · rw [length_encode, length_encode]
  · rw [bytes_encode, bytes_encode]

end Frame

/-- What is sent of a message is what is sent of its frame. -/
theorem Format.agrees_encode {α : Type} (format : Format α) (value : α) (system : SystemId)
    (component : ComponentId) (sequence : UInt8) (packet other : Packet) :
  (format.encode value system component sequence packet).Agrees
    ((format.frame value system component sequence).encode format.crcExtra other)
  := by
  constructor
  · change Version.v2.headerSize + sentLength (format.fullPayload value) + Checksum.size =
      Version.v2.headerSize + (format.payload value).bytes.length + Checksum.size
    rw [length_payload]
  · rw [bytes_encode, Frame.bytes_encode]

/-- The two encoders write within the packet, and send the same: of a message what the other
sends of the frame of the second version without flags and without a signature, whose payload
is the full payload up to its last significant byte.  Nothing that was in a packet before is
sent, of a message or of any frame. -/
theorem encoders_agree :
  (∀ {α : Type} (format : Format α) (value : α) (system : SystemId) (component : ComponentId)
      (sequence : UInt8) (packet other : Packet),
    let encoded := format.encode value system component sequence packet
    let full := format.fullPayload value
    ∃ payload : Payload, payload.bytes = full.take (sentLength full) ∧
      format.encode? value system component sequence packet.bytes =
        some (encoded.packet.bytes, encoded.length) ∧
      encoded.length ≤ Packet.size ∧
      encoded.Agrees (format.encode value system component sequence other) ∧
      encoded.Agrees (Frame.encode
        { version := .v2
          incompatFlags := 0
          compatFlags := 0
          sequence, system, component
          message := format.id
          payload
          signature := none } format.crcExtra other)) ∧
    ∀ (frame : Frame) (crcExtra : UInt8) (packet other : Packet),
      let encoded := frame.encode crcExtra packet
      frame.encode? crcExtra packet.bytes = some (encoded.packet.bytes, encoded.length) ∧
        encoded.length ≤ Packet.size ∧
        encoded.Agrees (frame.encode crcExtra other)
  := by
  have hlength (frame : Frame) (crcExtra : UInt8) (packet : Packet) :
      (frame.encode crcExtra packet).length ≤ Packet.size := by
    rw [Frame.length_encode]
    apply Frame.length_wire_le
  constructor
  · intro α format value system component sequence packet other encoded full
    have hframe : encoded.Agrees _ :=
      format.agrees_encode value system component sequence packet other
    have hother := format.agrees_encode value system component sequence other other
    refine ⟨format.payload value, rfl, ?_, ?_, ?_, hframe⟩
    · apply format.encode?_eq
    · rw [hframe.length_eq]
      apply hlength
    · constructor
      · rw [hframe.length_eq, hother.length_eq]
      · rw [hframe.bytes_eq, hother.bytes_eq]
  · intro frame crcExtra packet other encoded
    refine ⟨?_, ?_, ?_⟩
    · apply frame.encode?_eq
    · apply hlength
    · apply frame.agrees_encode

end FlightBus

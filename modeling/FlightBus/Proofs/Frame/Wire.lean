import FlightBus.Frame.Packet
import FlightBus.Proofs.Frame.Search

/-!
# Frames on the wire

`Frame.wire` gives the bytes of a frame without a packet: the header, the payload, their
checksum, and the signature if it is sent.  Both encoders leave exactly these bytes at the
start of a packet, whatever was in it before, and a candidate that starts with them is the
frame as it is received, if the receiver accepts it.
-/

namespace FlightBus

/-! ### Storing into packets -/

namespace Packet

theorem slice_eq_take (packet : Packet) (stop : Nat) :
  packet.slice 0 stop = packet.bytes.take stop
  := rfl

theorem bytes_store (packet : Packet) {offset : Nat} {value : List UInt8}
    (fits : offset + value.length ≤ size) :
  (packet.store offset value fits).bytes = overwrite packet.bytes offset value
  := rfl

/-- A value that is stored extends the bytes in front of it. -/
theorem slice_store (packet : Packet) {offset : Nat} {value : List UInt8}
    (fits : offset + value.length ≤ size) :
  (packet.store offset value fits).slice 0 (offset + value.length) =
    packet.slice 0 offset ++ value
  := by
  have hlength := packet.length_eq
  have hfront : (packet.bytes.take offset ++ value).length = offset + value.length := by
    rw [List.length_append, List.length_take]
    omega
  rw [slice_eq_take, slice_eq_take, bytes_store, overwrite]
  apply List.take_left' hfront

/-- A value that is stored at the start leaves the bytes behind it. -/
theorem slice_store_zero (packet : Packet) {value : List UInt8} (count : Nat)
    (fits : 0 + value.length ≤ size) :
  (packet.store 0 value fits).slice 0 (value.length + count) =
    value ++ packet.slice value.length (value.length + count)
  := by
  rw [slice_eq_take, bytes_store, overwrite, slice, List.drop_take, List.take_zero,
    List.nil_append, Nat.zero_add, Nat.add_sub_cancel_left, List.take_length_add_append]

/-- What was stored can be taken back. -/
theorem slice_store_self (packet : Packet) {offset count : Nat} {value : List UInt8}
    (fits : offset + value.length ≤ size) (h : count ≤ value.length) :
  (packet.store offset value fits).slice offset (offset + count) = value.take count
  := by
  have hlength := packet.length_eq
  have hfront : (packet.bytes.take offset).length = offset := by
    rw [List.length_take]
    omega
  rw [slice, List.drop_take, Nat.add_sub_cancel_left, bytes_store, overwrite, List.append_assoc,
    List.drop_left' hfront]
  apply List.take_append_of_le_length h

end Packet

/-! ### The bytes of a frame -/

/-- A byte string followed by the checksum of all its bytes but the first. -/
def withChecksum (crcExtra : UInt8) (bytes : List UInt8) : List UInt8 :=
  bytes ++
    LittleEndian.encode Checksum.size (Checksum.ofFrame (bytes.drop 1) crcExtra).toNat

theorem length_withChecksum (crcExtra : UInt8) (bytes : List UInt8) :
  (withChecksum crcExtra bytes).length = bytes.length + Checksum.size
  := by
  rw [withChecksum, List.length_append, LittleEndian.length_encode]

/-- Storing the checksum of the bytes at the start of a packet behind them. -/
theorem Packet.slice_store_checksum {packet : Packet} {front : List UInt8} {stop : Nat}
    (crcExtra : UInt8) (hfront : packet.slice 0 stop = front)
    (fits : stop + (LittleEndian.encode Checksum.size
      (Checksum.ofFrame (packet.slice 1 stop) crcExtra).toNat).length ≤ size) :
  (packet.store stop (LittleEndian.encode Checksum.size
      (Checksum.ofFrame (packet.slice 1 stop) crcExtra).toNat) fits).slice 0
    (stop + Checksum.size) = withChecksum crcExtra front
  := by
  have hcovered : packet.slice 1 stop = front.drop 1 := by
    rw [← hfront]
    rfl
  have hslice := slice_store packet fits
  rw [LittleEndian.length_encode] at hslice
  rw [hslice, hfront, hcovered, withChecksum]

namespace Frame

/-- The signature as it is sent: the first version has none. -/
def sentSignature (frame : Frame) : Option Signature :=
  match frame.version with
  | .v1 => none
  | .v2 => frame.signature

/-- The bytes behind the checksum. -/
def trailer (frame : Frame) : List UInt8 :=
  match frame.sentSignature with
  | none => []
  | some signature => signature.bytes

/-- The bytes of a frame. -/
def wire (frame : Frame) (crcExtra : UInt8) : List UInt8 :=
  withChecksum crcExtra (frame.header.bytes ++ frame.payload.bytes) ++ frame.trailer

/-- The number of bytes of a frame that has its signature if and only if it sends it. -/
def size (frame : Frame) : Nat :=
  frame.version.headerSize + frame.payload.bytes.length + Checksum.size +
    if frame.isSigned then Signature.size else 0

end Frame

/-- A header and a payload that are stored are followed by their checksum. -/
theorem Packet.slice_storeFrame (packet : Packet) (header : Header) (payload : Payload)
    (crcExtra : UInt8) :
  (packet.storeFrame header payload crcExtra).slice 0
      (header.version.headerSize + payload.bytes.length + Checksum.size) =
    withChecksum crcExtra (header.bytes ++ payload.bytes)
  := by
  have hheader : 0 + header.bytes.length ≤ size := by
    rw [Header.length_bytes]
    cases header.version <;> decide
  have hfront := slice_store packet hheader
  rw [Nat.zero_add, Header.length_bytes] at hfront
  rw [storeFrame, slice_store_checksum]
  rw [slice_store, hfront]
  rfl

/-- Encoding a frame leaves its bytes at the start of the packet. -/
theorem Frame.bytes_encode (frame : Frame) (crcExtra : UInt8) (packet : Packet) :
  (frame.encode crcExtra packet).bytes = frame.wire crcExtra
  := by
  have hstored := packet.slice_storeFrame frame.header frame.payload crcExtra
  change Packet.slice _ 0 (frame.version.headerSize + _ + _) = _ at hstored
  rw [Encoded.bytes, encode]
  split
  · rename_i signature hversion hsignature
    dsimp only
    rw [← signature.length_eq, Packet.slice_store, hstored, wire, trailer, sentSignature,
      hversion, hsignature]
  · rename_i hsigned
    dsimp only
    rw [hstored, wire, trailer, sentSignature]
    cases hversion : frame.version with
    | v1 => rw [List.append_nil]
    | v2 =>
        cases hsignature : frame.signature with
        | none => rw [List.append_nil]
        | some signature => cases hsigned signature hversion hsignature

namespace Format

variable {α : Type}

theorem length_payload (format : Format α) (value : α) :
  (format.payload value).bytes.length = sentLength (format.fullPayload value)
  := by
  apply List.length_take_of_le
  apply sentLength_le

/-- The header that is written for a value is that of its frame. -/
theorem header_frame (format : Format α) (value : α) (system : SystemId)
    (component : ComponentId) (sequence : UInt8) :
  (format.frame value system component sequence).header =
    format.header value system component sequence
  := by
  have hlength := format.length_payload value
  rw [Frame.header, frame, header]
  dsimp only
  rw [hlength]
  rfl

/-- Encoding a value leaves the bytes of its frame at the start of the packet. -/
theorem bytes_encode (format : Format α) (value : α) (system : SystemId)
    (component : ComponentId) (sequence : UInt8) (packet : Packet) :
  (format.encode value system component sequence packet).bytes =
    (format.frame value system component sequence).wire format.crcExtra
  := by
  have hsent := sentLength_le (format.fullPayload value)
  have hfull : Version.v2.headerSize + (format.fullPayload value).length ≤ Packet.size := by
    have hmax := format.maxLength_le
    rw [length_fullPayload]
    rw [Packet.size]
    omega
  have hheader :
      0 + (format.header value system component sequence).bytes.length ≤ Packet.size := by
    rw [Header.length_bytes]
    change 0 + Version.v2.headerSize ≤ Packet.size
    decide
  have hfront := (packet.store Version.v2.headerSize _ hfull).slice_store_zero
    (sentLength (format.fullPayload value)) hheader
  rw [Header.length_bytes] at hfront
  change Packet.slice _ 0 (Version.v2.headerSize + _) =
    _ ++ Packet.slice _ Version.v2.headerSize (Version.v2.headerSize + _) at hfront
  rw [Packet.slice_store_self packet hfull hsent] at hfront
  rw [Encoded.bytes, encode]
  dsimp only
  rw [Packet.slice_store_checksum format.crcExtra hfront, Frame.wire, header_frame]
  symm
  apply List.append_nil

end Format

/-! ### The bytes of a frame as a candidate -/

/-- A checksum is read back from its bytes. -/
theorem Checksum.decode_encode (checksum : UInt16) :
  UInt16.ofNat (LittleEndian.decode (LittleEndian.encode size checksum.toNat)) = checksum
  := by
  have hbound : checksum.toNat < LittleEndian.bound size := checksum.toNat_lt
  rw [LittleEndian.decode_encode, Nat.mod_eq_of_lt hbound, UInt16.ofNat_toNat]

/-- The low byte, the next, and the next but one, of a number of 24 bits make it up. -/
theorem MessageId.ofBytes_bytes (id : MessageId) :
  MessageId.ofBytes id.lowByte (UInt8.ofNat (id.toNat / 256)) (UInt8.ofNat (id.toNat / 65536)) =
    id
  := by
  have hlt := id.isLt
  rw [bound] at hlt
  rcases id with ⟨n, hn⟩
  simp only [ofBytes, lowByte, UInt8.toNat_ofNat', MessageId.mk.injEq] at hlt ⊢
  omega

namespace Header

/-- The header as it is received: the first version drops the flags and all but the low
byte of the message type. -/
def received (header : Header) : Header :=
  match header.version with
  | .v1 =>
      { header with
        incompatFlags := 0
        compatFlags := 0
        message := MessageId.ofByte header.message.lowByte }
  | .v2 => header

/-- The bytes of a header are read back. -/
theorem read?_bytes (header : Header) (rest : List UInt8) :
  read? header.version (header.bytes ++ rest) = some (header.received, rest)
  := by
  rcases header with ⟨version, length, incompat, compat, sequence, system, component, id⟩
  cases version with
  | v1 => rfl
  | v2 =>
      change some (_, rest) = _
      rw [MessageId.ofBytes_bytes]
      rfl

end Header

namespace Frame

/-- The frame as it is received.  In the second version the flag that announces a signature
says whether there is one; the first version drops the flags, the signature and all but the
low byte of the message type. -/
def received (frame : Frame) : Frame where
  version := frame.version
  incompatFlags := frame.header.incompatFlags
  compatFlags := frame.header.compatFlags
  sequence := frame.sequence
  system := frame.system
  component := frame.component
  message :=
    match frame.version with
    | .v1 => MessageId.ofByte frame.message.lowByte
    | .v2 => frame.message
  payload := frame.payload
  signature := frame.sentSignature

/-- A receiver accepts the frame when it is sent with the given extra byte: its flags are
understood, and its message type is known, has that extra byte and can have a payload of
this length. -/
def Admissible (lookup : Lookup) (crcExtra : UInt8) (frame : Frame) : Prop :=
  frame.received.incompatFlags &&& ~~~supportedFlags = 0 ∧
    ∃ descriptor, lookup frame.received.message = some descriptor ∧
      descriptor.crcExtra = crcExtra ∧
      match frame.version with
      | .v1 => frame.payload.bytes.length = descriptor.minLength
      | .v2 => frame.payload.bytes.length ≤ descriptor.maxLength

theorem received_header (frame : Frame) :
  frame.header.received =
    ⟨frame.version, UInt8.ofNat frame.payload.bytes.length, frame.received.incompatFlags,
      frame.received.compatFlags, frame.sequence, frame.system, frame.component,
      frame.received.message⟩
  := by
  rcases frame with ⟨version, incompat, compat, sequence, system, component, id, payload,
    signature⟩
  cases version with
  | v1 => rfl
  | v2 => rfl

/-- A frame of the second version whose flags say whether it has a signature is received as
it is. -/
theorem received_eq_self {frame : Frame} (hversion : frame.version = .v2)
    (hflags : frame.incompatFlags = if frame.isSigned then signedFlag else 0) :
  frame.received = frame
  := by
  rcases frame with ⟨version, incompat, compat, sequence, system, component, id, payload,
    signature⟩
  cases hversion
  cases signature with
  | none =>
      change incompat = 0 at hflags
      subst hflags
      simp [received, header, sentSignature]
  | some signature =>
      change incompat = signedFlag at hflags
      subst hflags
      simp [received, header, sentSignature]

theorem bodyLength_header (frame : Frame) :
  frame.header.received.bodyLength = frame.payload.bytes.length
  := by
  rw [received_header, Header.bodyLength, UInt8.toNat_ofNat']
  apply Nat.mod_eq_of_lt
  apply Nat.lt_succ_of_le frame.payload.length_le

/-- The header announces a signature if and only if one is sent. -/
theorem isSigned_header (frame : Frame) :
  frame.header.received.isSigned = frame.sentSignature.isSome
  := by
  have hset (flags : UInt8) : (flags ||| signedFlag) &&& signedFlag = signedFlag := by
    rw [signedFlag]
    apply UInt8.toNat_inj.mp
    simp
  have hclear (flags : UInt8) : flags &&& ~~~signedFlag &&& signedFlag = 0 := by
    rw [UInt8.and_assoc, show ~~~signedFlag &&& signedFlag = 0 from by decide, UInt8.and_zero]
  rcases frame with ⟨version, incompat, compat, sequence, system, component, id, payload,
    signature⟩
  cases version with
  | v1 =>
      change decide ((0 : UInt8) &&& signedFlag ≠ 0) = false
      decide
  | v2 =>
      cases signature with
      | none => simp [Header.received, header, Header.isSigned, sentSignature, hclear]
      | some signature =>
          simp [Header.received, header, Header.isSigned, sentSignature, hset]
          decide

theorem length_trailer (frame : Frame) :
  frame.trailer.length = frame.header.received.announcedSignature
  := by
  rw [Header.announcedSignature, isSigned_header, trailer]
  cases frame.sentSignature with
  | none => rfl
  | some signature => apply signature.length_eq

theorem ofBytes?_bytes (signature : Signature) :
  Signature.ofBytes? signature.bytes = some signature
  := by
  rw [Signature.ofBytes?, dif_pos signature.length_eq]

/-- The header of a frame and the bytes behind it give the frame as it is received. -/
theorem toFrame_header (frame : Frame) {checksum : List UInt8} (more : List UInt8)
    (h : checksum.length = Checksum.size) :
  frame.header.received.toFrame
    (frame.payload.bytes ++ (checksum ++ (frame.trailer ++ more))) = frame.received
  := by
  have hpayload : (frame.payload.bytes ++ (checksum ++ (frame.trailer ++ more))).take
      frame.header.received.bodyLength = frame.payload.bytes := by
    apply List.take_left' frame.bodyLength_header.symm
  have hdrop : (frame.payload.bytes ++ (checksum ++ (frame.trailer ++ more))).drop
      (frame.header.received.bodyLength + Checksum.size) = frame.trailer ++ more := by
    rw [← List.append_assoc]
    apply List.drop_left'
    rw [List.length_append, bodyLength_header, h]
  have hsignature : (if frame.header.received.isSigned then
      Signature.ofBytes? ((frame.trailer ++ more).take Signature.size) else none) =
      frame.sentSignature := by
    rw [isSigned_header, trailer]
    cases frame.sentSignature with
    | none => rfl
    | some signature =>
        dsimp only
        rw [List.take_left' signature.length_eq, ofBytes?_bytes]
        rfl
  simp only [Header.toFrame, hpayload, hdrop, hsignature]
  simp only [received_header]
  rfl

theorem length_wire (frame : Frame) (crcExtra : UInt8) :
  (frame.wire crcExtra).length = frame.header.received.frameLength
  := by
  rw [wire, List.length_append, length_withChecksum, List.length_append, Header.length_bytes,
    length_trailer, Header.frameLength, bodyLength_header, received_header]
  rfl

/-- A frame that starts a byte string, as it is sent, is found there as it is received. -/
theorem examine_wire {lookup : Lookup} {crcExtra : UInt8} {frame : Frame}
    (admissible : frame.Admissible lookup crcExtra) (more : List UInt8) :
  examine lookup frame.version (frame.wire crcExtra ++ more) =
    .complete frame.received (frame.wire crcExtra).length
  := by
  obtain ⟨hflags, descriptor, hdescriptor, rfl, hlength⟩ := admissible
  let covered := frame.header.bytes ++ frame.payload.bytes
  let checksum := LittleEndian.encode Checksum.size
    (Checksum.ofFrame (covered.drop 1) descriptor.crcExtra).toNat
  have hchecksum : checksum.length = Checksum.size := LittleEndian.length_encode _ _
  have hwire : frame.wire descriptor.crcExtra ++ more =
      covered ++ (checksum ++ (frame.trailer ++ more)) := by
    simp only [wire, withChecksum, covered, checksum, List.append_assoc]
  have hstop :
      covered.length = frame.version.headerSize + frame.header.received.bodyLength := by
    rw [List.length_append, Header.length_bytes, bodyLength_header]
    rfl
  apply examine_eq_complete_iff.mpr
  refine ⟨frame.header.received, frame.payload.bytes ++ (checksum ++ (frame.trailer ++ more)),
    descriptor, ?_, ?_, ?_, ?_, ?_, ?_, ?_, ?_⟩
  · rw [hwire, List.append_assoc]
    apply Header.read?_bytes frame.header
  · rw [Header.hasUnsupportedFlags, received_header]
    simpa using hflags
  · rw [received_header]
    apply hdescriptor
  · have hbody := frame.bodyLength_header
    rw [received_header, Header.bodyLength] at hbody
    rw [received_header, Header.admitsLength]
    cases hversion : frame.version with
    | v1 =>
        rw [hversion] at hlength
        simp only [hbody]
        apply decide_eq_true hlength
    | v2 =>
        rw [hversion] at hlength
        simp only [hbody]
        apply decide_eq_true hlength
  · rw [List.length_append, length_wire]
    apply Nat.le_add_right
  · rw [hwire, ← hstop, List.drop_left' rfl, List.take_left' hchecksum, List.take_left' rfl,
      Checksum.decode_encode]
  · symm
    apply toFrame_header frame more hchecksum
  · apply length_wire

/-- The first byte of a frame is the marker of its version. -/
theorem exists_wire_eq_cons (frame : Frame) (crcExtra : UInt8) :
  ∃ rest, frame.wire crcExtra = frame.version.marker :: rest
  := by
  rcases frame with ⟨version, incompat, compat, sequence, system, component, id, payload,
    signature⟩
  cases version with
  | v1 => exact ⟨_, rfl⟩
  | v2 => exact ⟨_, rfl⟩

end Frame

namespace Format

variable {α : Type}

/-- The frame of a value is received as it is. -/
theorem received_frame (format : Format α) (value : α) (system : SystemId)
    (component : ComponentId) (sequence : UInt8) :
  (format.frame value system component sequence).received =
    format.frame value system component sequence
  := by
  apply Frame.received_eq_self rfl rfl

/-- A receiver that knows the message type accepts the frame of a value. -/
theorem admissible_frame (format : Format α) {lookup : Lookup}
    (known : lookup format.id = some format.descriptor) (value : α) (system : SystemId)
    (component : ComponentId) (sequence : UInt8) :
  (format.frame value system component sequence).Admissible lookup format.crcExtra
  := by
  refine ⟨?_, format.descriptor, known, rfl, ?_⟩
  · rw [received_frame]
    apply UInt8.zero_and
  · change (format.payload value).bytes.length ≤ format.maxLength
    rw [length_payload, ← format.length_fullPayload value]
    apply sentLength_le

end Format

/-! ### Frames that are found -/

/-- The frame of a header has as many bytes of payload as the header says. -/
theorem Header.length_payload_toFrame {header : Header} {body : List UInt8}
    (h : header.bodyLength ≤ body.length) :
  (header.toFrame body).payload.bytes.length = header.bodyLength
  := by
  apply List.length_take_of_le h

/-- The frame of a header has a signature if and only if the header announces one. -/
theorem Header.signature_toFrame {header : Header} {body : List UInt8}
    (h : header.bodyLength + Checksum.size + header.announcedSignature ≤ body.length) :
  (header.toFrame body).signature.isSome = header.isSigned
  := by
  cases hsigned : header.isSigned with
  | false => simp [toFrame, hsigned]
  | true =>
      rw [announcedSignature, if_pos hsigned] at h
      have hlength : ((body.drop (header.bodyLength + Checksum.size)).take
          Signature.size).length = Signature.size := by
        rw [List.length_take, List.length_drop]
        omega
      simp [toFrame, hsigned, Signature.ofBytes?, hlength]

/-- The length of a frame that is found is its size. -/
theorem size_of_complete {lookup : Lookup} {version : Version} {candidate : List UInt8}
    {frame : Frame} {length : Nat}
    (h : examine lookup version candidate = .complete frame length) :
  frame.size = length
  := by
  obtain ⟨header, body, descriptor, hread, -, -, -, hlength, -, rfl, rfl⟩ :=
    examine_eq_complete_iff.mp h
  have hbody := Header.length_of_read? hread
  rw [← Header.version_of_read? hread] at hbody
  rw [Header.frameLength] at hlength
  rw [Frame.size, Frame.isSigned, Header.signature_toFrame, Header.length_payload_toFrame]
  · rfl
  · omega
  · omega

/-- A search finds a frame that the bytes start with. -/
theorem Frame.Admissible.step {lookup : Lookup} {crcExtra : UInt8} {frame : Frame}
    (admissible : frame.Admissible lookup crcExtra) (after : List UInt8) :
  SearchStep lookup (frame.wire crcExtra ++ after) (some (.frame frame.received)) after
  := by
  have hverdict := examine_wire admissible after
  obtain ⟨bytes, hbytes⟩ := frame.exists_wire_eq_cons crcExtra
  rw [hbytes, List.cons_append] at hverdict ⊢
  have hstep := SearchStep.found (Version.ofMarker?_marker frame.version) hverdict
  rw [List.length_cons, Nat.add_sub_cancel, List.drop_left' rfl] at hstep
  apply hstep

theorem Frame.Admissible.size_received {lookup : Lookup} {crcExtra : UInt8} {frame : Frame}
    (admissible : frame.Admissible lookup crcExtra) :
  frame.received.size = (frame.wire crcExtra).length
  := by
  apply size_of_complete (examine_wire admissible [])

theorem version_of_complete {lookup : Lookup} {version : Version} {candidate : List UInt8}
    {frame : Frame} {length : Nat}
    (h : examine lookup version candidate = .complete frame length) :
  frame.version = version
  := by
  obtain ⟨header, body, descriptor, hread, -, -, -, -, -, rfl, -⟩ :=
    examine_eq_complete_iff.mp h
  apply Header.version_of_read? hread

theorem Frame.size_pos (frame : Frame) :
  0 < frame.size
  := by
  rw [size]
  cases frame.version <;> simp only [Version.headerSize] <;> omega

/-- The only flags that are understood are the one of a signature and none. -/
theorem flags_of_supported {flags : UInt8} (h : flags &&& ~~~supportedFlags = 0) :
  flags = 0 ∨ flags = signedFlag
  := by
  have hall : ∀ n < 256, UInt8.ofNat n &&& ~~~supportedFlags = 0 →
      UInt8.ofNat n = 0 ∨ UInt8.ofNat n = signedFlag := by
    decide +kernel
  have hflags := hall flags.toNat flags.toNat_lt
  rw [UInt8.ofNat_toNat] at hflags
  apply hflags h

/-- The frame of a header whose flags are understood is received as it is. -/
theorem Header.received_toFrame {version : Version} {bytes body : List UInt8}
    {header : Header} (hread : Header.read? version bytes = some (header, body))
    (hflags : header.incompatFlags &&& ~~~supportedFlags = 0)
    (hsignature : (header.toFrame body).signature.isSome = header.isSigned) :
  (header.toFrame body).received = header.toFrame body
  := by
  have hsigned : header.incompatFlags = if header.isSigned then signedFlag else 0 := by
    rcases flags_of_supported hflags with hzero | hone
    · rw [isSigned, hzero]
      rfl
    · rw [isSigned, hone]
      rfl
  rw [← hsignature] at hsigned
  rw [Header.read?.eq_def] at hread
  split at hread
  · cases hread
    simp [Frame.received, Header.toFrame, Frame.header, Frame.sentSignature, Header.isSigned,
      MessageId.ofByte, MessageId.lowByte]
  · cases hread
    apply Frame.received_eq_self rfl hsigned
  · cases hread

/-- A frame that is found is one that the receiver accepts, and when it is sent again, it is
received as it is. -/
theorem received_of_complete {lookup : Lookup} {version : Version} {candidate : List UInt8}
    {frame : Frame} {length : Nat}
    (h : examine lookup version candidate = .complete frame length) :
  frame.received = frame ∧ ∃ crcExtra, frame.Admissible lookup crcExtra
  := by
  obtain ⟨header, body, descriptor, hread, hflags, hdescriptor, hlength, hwhole, -, rfl, -⟩ :=
    examine_eq_complete_iff.mp h
  have hbody := Header.length_of_read? hread
  rw [← Header.version_of_read? hread] at hbody
  rw [Header.frameLength] at hwhole
  have hsupported : header.incompatFlags &&& ~~~supportedFlags = 0 := by
    simpa [Header.hasUnsupportedFlags] using hflags
  have hsignature : (header.toFrame body).signature.isSome = header.isSigned := by
    apply Header.signature_toFrame
    omega
  have hpayload : (header.toFrame body).payload.bytes.length = header.bodyLength := by
    apply Header.length_payload_toFrame
    omega
  have hreceived := Header.received_toFrame hread hsupported hsignature
  refine ⟨hreceived, descriptor.crcExtra, ?_, descriptor, ?_, rfl, ?_⟩
  · rw [hreceived]
    apply hsupported
  · rw [hreceived]
    apply hdescriptor
  · rw [hpayload]
    rw [Header.admitsLength] at hlength
    change match header.version with
      | .v1 => _
      | .v2 => _
    cases hversion : header.version with
    | v1 =>
        rw [hversion] at hlength
        apply of_decide_eq_true hlength
    | v2 =>
        rw [hversion] at hlength
        apply of_decide_eq_true hlength

end FlightBus

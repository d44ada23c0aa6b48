import FlightBus.Proofs.Frame.Reencoding
import FlightBus.Proofs.Frame.Schedule
import FlightBus.Proofs.Wire.Checksum

/-!
# Altered frames

The marker, the length, the flags that a receiver must understand and the message type decide
whether the checksum of a candidate is looked at, and which bytes it covers.  A byte of a
frame at another place, of the rest of the header, of the payload or of the checksum, is
looked at with the checksum alone.  If such a byte is replaced by another one, the candidate
is as long as the frame was, and it is rejected for its checksum: either the bytes that are
covered differ in one place, and so does what is computed from them, or what is received
differs.
-/

namespace FlightBus

/-! ### Parts of a frame -/

/-- The number of bytes of a header in front of the sequence number. -/
def Version.sequenceOffset : Version → Nat
  | v1 => 2
  | v2 => 4

/-- The parts of a frame that are looked at with the checksum alone. -/
inductive FramePart
  | compatFlags
  | sequence
  | system
  | component
  | payload (index : Nat)
  | checksum (index : Nat)
deriving DecidableEq, Repr

/-- The checksum of a frame. -/
def Frame.checksum (frame : Frame) (crcExtra : UInt8) : UInt16 :=
  Checksum.ofFrame ((frame.header.bytes ++ frame.payload.bytes).drop 1) crcExtra

namespace FramePart

/-- The place of a part among the bytes of a frame, if the frame has the part. -/
def place? (frame : Frame) : FramePart → Option Nat
  | compatFlags => if frame.version = .v2 then some 3 else none
  | sequence => some frame.version.sequenceOffset
  | system => some (frame.version.sequenceOffset + 1)
  | component => some (frame.version.sequenceOffset + 2)
  | payload index =>
      if index < frame.payload.bytes.length then
        some (frame.version.headerSize + index)
      else
        none
  | checksum index =>
      if index < Checksum.size then
        some (frame.version.headerSize + frame.payload.bytes.length + index)
      else
        none

/-- The byte of a part, if the frame has the part. -/
def byte? (crcExtra : UInt8) (frame : Frame) : FramePart → Option UInt8
  | compatFlags => if frame.version = .v2 then some frame.compatFlags else none
  | sequence => some frame.sequence
  | system => some frame.system.byte
  | component => some frame.component.byte
  | payload index => frame.payload.bytes[index]?
  | checksum index =>
      (LittleEndian.encode Checksum.size (frame.checksum crcExtra).toNat)[index]?

end FramePart

namespace Frame

theorem getElem?_wire_payload (frame : Frame) (crcExtra : UInt8) {i : Nat}
    (h : i < frame.payload.bytes.length) :
  (frame.wire crcExtra)[frame.version.headerSize + i]? = frame.payload.bytes[i]?
  := by
  have hheader : frame.header.bytes.length = frame.version.headerSize :=
    Header.length_bytes frame.header
  rw [wire, withChecksum, List.append_assoc, List.append_assoc, ← hheader,
    List.getElem?_append_right (Nat.le_add_right _ i), Nat.add_sub_cancel_left,
    List.getElem?_append_left h]

theorem getElem?_wire_checksum (frame : Frame) (crcExtra : UInt8) {i : Nat}
    (h : i < Checksum.size) :
  (frame.wire crcExtra)[frame.version.headerSize + frame.payload.bytes.length + i]? =
    (LittleEndian.encode Checksum.size (frame.checksum crcExtra).toNat)[i]?
  := by
  have hcovered : (frame.header.bytes ++ frame.payload.bytes).length =
      frame.version.headerSize + frame.payload.bytes.length := by
    rw [List.length_append, Header.length_bytes]
    rfl
  rw [← LittleEndian.length_encode Checksum.size (frame.checksum crcExtra).toNat] at h
  rw [wire, withChecksum, List.append_assoc, ← hcovered,
    List.getElem?_append_right (Nat.le_add_right _ i), Nat.add_sub_cancel_left, ← checksum,
    List.getElem?_append_left h]

/-- The byte at the place of a part is the byte of the part. -/
theorem getElem?_wire {frame : Frame} {part : FramePart} {i : Nat} (crcExtra : UInt8)
    (hplace : part.place? frame = some i) :
  (frame.wire crcExtra)[i]? = part.byte? crcExtra frame
  := by
  cases part with
  | compatFlags =>
      obtain ⟨version, _⟩ := frame
      cases version with
      | v1 => cases hplace
      | v2 =>
          cases hplace
          rfl
  | sequence =>
      cases hplace
      obtain ⟨version, _⟩ := frame
      cases version <;> rfl
  | system =>
      cases hplace
      obtain ⟨version, _⟩ := frame
      cases version <;> rfl
  | component =>
      cases hplace
      obtain ⟨version, _⟩ := frame
      cases version <;> rfl
  | payload index =>
      obtain ⟨hindex, hsome⟩ := Option.ite_none_right_eq_some.mp hplace
      cases hsome
      apply frame.getElem?_wire_payload crcExtra hindex
  | checksum index =>
      obtain ⟨hindex, hsome⟩ := Option.ite_none_right_eq_some.mp hplace
      cases hsome
      apply frame.getElem?_wire_checksum crcExtra hindex

end Frame

/-! ### Candidates that fail the checksum -/

/-- A place where a header of a version has none of the marker, the length, the flags that a
receiver must understand, and the message type. -/
def Version.IsOpen (i : Nat) : Version → Prop
  | v1 => 2 ≤ i ∧ i ≠ 5
  | v2 => 3 ≤ i ∧ i ≠ 7 ∧ i ≠ 8 ∧ i ≠ 9

namespace Version

theorem sequenceOffset_lt (version : Version) :
  version.sequenceOffset + 2 < version.headerSize
  := by
  cases version <;> decide

theorem isOpen_of_sequenceOffset_le (version : Version) {i : Nat}
    (h : version.sequenceOffset ≤ i) (hle : i ≤ version.sequenceOffset + 2) :
  version.IsOpen i
  := by
  cases version <;> simp only [sequenceOffset, IsOpen] at h hle ⊢ <;> omega

theorem isOpen_of_headerSize_le (version : Version) {i : Nat} (h : version.headerSize ≤ i) :
  version.IsOpen i
  := by
  cases version <;> simp only [headerSize, IsOpen] at h ⊢ <;> omega

theorem pos_of_isOpen {version : Version} {i : Nat} (hopen : version.IsOpen i) :
  0 < i
  := by
  cases version <;> simp only [IsOpen] at hopen <;> omega

end Version

/-- Altering a byte at an open place alters nothing of the header that is checked apart from
the checksum. -/
theorem Header.read?_set {version : Version} {bytes body : List UInt8} {header : Header}
    (hread : read? version bytes = some (header, body)) {i : Nat} (hopen : version.IsOpen i)
    (b : UInt8) :
  ∃ compat sequence system component body',
    read? version (bytes.set i b) =
      some (⟨header.version, header.payloadLength, header.incompatFlags, compat, sequence,
        system, component, header.message⟩, body')
  := by
  rw [read?.eq_def] at hread
  split at hread
  · cases hread
    obtain ⟨hle, hne⟩ := hopen
    have hplace : i = 2 ∨ i = 3 ∨ i = 4 ∨ 6 ≤ i := by omega
    rcases hplace with rfl | rfl | rfl | hbody
    · exact ⟨_, _, _, _, _, rfl⟩
    · exact ⟨_, _, _, _, _, rfl⟩
    · exact ⟨_, _, _, _, _, rfl⟩
    · obtain ⟨j, rfl⟩ := Nat.exists_eq_add_of_le' hbody
      exact ⟨_, _, _, _, _, rfl⟩
  · cases hread
    obtain ⟨hle, hne₇, hne₈, hne₉⟩ := hopen
    have hplace : i = 3 ∨ i = 4 ∨ i = 5 ∨ i = 6 ∨ 10 ≤ i := by omega
    rcases hplace with rfl | rfl | rfl | rfl | hbody
    · exact ⟨_, _, _, _, _, rfl⟩
    · exact ⟨_, _, _, _, _, rfl⟩
    · exact ⟨_, _, _, _, _, rfl⟩
    · exact ⟨_, _, _, _, _, rfl⟩
    · obtain ⟨j, rfl⟩ := Nat.exists_eq_add_of_le' hbody
      exact ⟨_, _, _, _, _, rfl⟩
  · cases hread

/-- A candidate that passes all other checks is rejected if the checksum that is received is
not the one that is computed. -/
theorem examine_of_checksum_ne {lookup : Lookup} {version : Version}
    {candidate body : List UInt8} {header : Header} {descriptor : Descriptor}
    (hread : Header.read? version candidate = some (header, body))
    (hflags : header.hasUnsupportedFlags = false)
    (hknown : lookup header.message = some descriptor)
    (hadmits : header.admitsLength descriptor = true)
    (hwhole : header.frameLength ≤ candidate.length) {received computed : UInt16}
    (hreceived : UInt16.ofNat (LittleEndian.decode
      ((candidate.drop (version.headerSize + header.bodyLength)).take Checksum.size)) = received)
    (hcomputed : Checksum.ofFrame
      ((candidate.take (version.headerSize + header.bodyLength)).drop 1)
      descriptor.crcExtra = computed)
    (hne : received ≠ computed) :
  examine lookup version candidate =
    .rejected (.checksumMismatch header.message received computed)
  := by
  subst hreceived hcomputed
  simp only [examine, hread, hflags, hknown, hadmits, Nat.not_lt_of_le hwhole]
  exact if_pos hne

namespace Checksum

/-- Different bytes of a checksum are different checksums. -/
theorem decode_ne {bytes others : List UInt8} (hlength : bytes.length = size)
    (hother : others.length = size) (hne : bytes ≠ others) :
  UInt16.ofNat (LittleEndian.decode bytes) ≠ UInt16.ofNat (LittleEndian.decode others)
  := by
  intro h
  apply hne
  rw [← encode_decode hlength, h, encode_decode hother]

theorem set_ne {bytes : List UInt8} {i : Nat} {b : UInt8} (hlength : i < bytes.length)
    (hother : bytes[i]? ≠ some b) :
  bytes.set i b ≠ bytes
  := by
  intro h
  apply hother
  rw [← h, List.getElem?_set_self hlength]

theorem agreeBut_set (bytes : List UInt8) (i : Nat) (b : UInt8) :
  AgreeBut i (bytes.set i b) bytes
  := by
  intro j hj _
  apply List.getElem?_set_ne hj.symm

/-- Bytes are followed by their checksum: the bytes up to a place, but for the first one, and
the bytes at that place. -/
def Seals (crcExtra : UInt8) (stop : Nat) (bytes : List UInt8) : Prop :=
  UInt16.ofNat (LittleEndian.decode ((bytes.drop stop).take size)) =
    ofFrame ((bytes.take stop).drop 1) crcExtra

/-- When a byte behind the first one is altered, be it one that is covered or one of the
checksum, the bytes are not followed by their checksum any more. -/
theorem Seals.not_set {crcExtra b : UInt8} {stop i : Nat} {bytes : List UInt8}
    (seals : Seals crcExtra stop bytes) (hwhole : stop + size ≤ bytes.length) (hpos : 0 < i)
    (hplace : i < stop + size) (hother : bytes[i]? ≠ some b) :
  ¬ Seals crcExtra stop (bytes.set i b)
  := by
  rw [Seals] at seals ⊢
  by_cases hcovered : i < stop
  · -- The checksum stays, and the bytes that it covers change at one place.
    have hnot : ¬ i < 1 := Nat.not_lt_of_le hpos
    rw [List.drop_set, if_pos hcovered, seals, List.take_set, List.drop_set, if_neg hnot]
    apply Ne.symm
    apply ofFrame_ne_of_agreeBut List.length_set _ (agreeBut_set _ (i - 1) b)
    apply set_ne
    · rw [List.length_drop, List.length_take]
      omega
    · have hindex : 1 + (i - 1) = i := by omega
      rw [List.getElem?_drop, hindex, List.getElem?_take, if_pos hcovered]
      apply hother
  · -- The bytes that are covered stay, and the checksum changes.
    have hstop : (bytes.take stop).length ≤ i := by
      rw [List.length_take]
      omega
    rw [List.take_set, List.set_eq_of_length_le hstop, ← seals, List.drop_set,
      if_neg hcovered, List.take_set]
    have hchecksum : ((bytes.drop stop).take size).length = size := by
      rw [List.length_take, List.length_drop]
      omega
    apply decode_ne _ hchecksum
    · apply set_ne
      · omega
      · have hindex : stop + (i - stop) = i := by omega
        rw [List.getElem?_take, if_pos (by omega), List.getElem?_drop, hindex]
        apply hother
    · rw [List.length_set]
      apply hchecksum

end Checksum

/-- A byte of a frame at an open place, up to the checksum, is looked at with the checksum
alone: whatever other byte takes its place, the candidate is rejected for its checksum. -/
theorem examine_set {lookup : Lookup} {version : Version} {candidate : List UInt8}
    {frame : Frame} {length : Nat}
    (verdict : examine lookup version candidate = .complete frame length) {i : Nat} {b : UInt8}
    (hopen : version.IsOpen i)
    (hplace : i < version.headerSize + frame.payload.bytes.length + Checksum.size)
    (hother : candidate[i]? ≠ some b) :
  ∃ received computed, received ≠ computed ∧
    examine lookup version (candidate.set i b) =
      .rejected (.checksumMismatch frame.message received computed)
  := by
  obtain ⟨header, body, descriptor, hread, hflags, hknown, hadmits, hwhole, hchecksum, rfl,
    rfl⟩ := examine_eq_complete_iff.mp verdict
  obtain ⟨compat, sequence, system, component, body', hread'⟩ := Header.read?_set hread hopen b
  have hparts := hwhole
  rw [Header.frameLength, Header.version_of_read? hread] at hparts
  have hpayload : (header.toFrame body).payload.bytes.length = header.bodyLength := by
    apply Header.length_payload_toFrame
    have hsplit := Header.length_of_read? hread
    omega
  rw [hpayload] at hplace
  have hne := Checksum.Seals.not_set hchecksum (by omega) (Version.pos_of_isOpen hopen) hplace
    hother
  have hwhole' : header.frameLength ≤ (candidate.set i b).length := by
    rw [List.length_set]
    apply hwhole
  exact ⟨_, _, hne, examine_of_checksum_ne hread' hflags hknown hadmits hwhole' rfl rfl hne⟩

/-! ### Altered frames -/

namespace FramePart

/-- The place of a part is an open one, up to the checksum. -/
theorem isOpen_of_place? {frame : Frame} {part : FramePart} {i : Nat}
    (hplace : part.place? frame = some i) :
  frame.version.IsOpen i ∧
    i < frame.version.headerSize + frame.payload.bytes.length + Checksum.size
  := by
  have hsequence := frame.version.sequenceOffset_lt
  cases part with
  | compatFlags =>
      obtain ⟨hversion, hsome⟩ := Option.ite_none_right_eq_some.mp hplace
      cases hsome
      rw [hversion, Version.headerSize, Version.IsOpen]
      omega
  | sequence =>
      cases hplace
      exact ⟨frame.version.isOpen_of_sequenceOffset_le (by omega) (by omega), by omega⟩
  | system =>
      cases hplace
      exact ⟨frame.version.isOpen_of_sequenceOffset_le (by omega) (by omega), by omega⟩
  | component =>
      cases hplace
      exact ⟨frame.version.isOpen_of_sequenceOffset_le (by omega) (by omega), by omega⟩
  | payload index =>
      obtain ⟨hindex, hsome⟩ := Option.ite_none_right_eq_some.mp hplace
      cases hsome
      exact ⟨frame.version.isOpen_of_headerSize_le (by omega), by omega⟩
  | checksum index =>
      obtain ⟨hindex, hsome⟩ := Option.ite_none_right_eq_some.mp hplace
      cases hsome
      exact ⟨frame.version.isOpen_of_headerSize_le (by omega), by omega⟩

end FramePart

namespace Deframer

variable {lookup : Lookup} {bytes rest : List UInt8} {cause : Rejection}

/-- A poll counts a rejected candidate, drops its marker and goes on. -/
theorem poll_of_rejected (step : SearchStep lookup bytes (some (.rejected cause)) rest)
    (counts : FindingCounts) :
  poll lookup ⟨bytes, counts⟩ =
    let (findings, after) := poll lookup ⟨rest, counts.add (.rejected cause)⟩
    (.rejected cause :: findings, after)
  := by
  rw [poll, step.search_eq]
  rfl

/-- Pushing the bytes of a rejected candidate counts it, drops its marker and goes on. -/
theorem pushAll_of_rejected (step : SearchStep lookup bytes (some (.rejected cause)) rest)
    (counts : FindingCounts) :
  pushAll lookup bytes ⟨[], counts⟩ =
    let (findings, after) := drain lookup ⟨rest, counts.add (.rejected cause)⟩
    (.rejected cause :: findings, after)
  := by
  rw [pushAll_eq_drain bytes Stuck.nil, List.nil_append, step.drain_eq]
  rfl

/-- Byte strings of the same length that differ, but only within two places next to each
other, have different checksums.  So if one byte of a frame that a receiver accepts is
replaced by another one, be it one of the sequence number, the system, the component, the
flags that may be ignored, the payload or the checksum, no frame is found at its marker.  The
candidate is rejected for its checksum, this is counted once, and the search goes on behind
the marker. -/
theorem rejected_of_altered :
  (∀ (crcExtra : UInt8) (i : Nat) (bytes others : List UInt8),
    bytes.length = others.length → bytes ≠ others → Checksum.AgreeBut i bytes others →
    Checksum.ofFrame bytes crcExtra ≠ Checksum.ofFrame others crcExtra) ∧
  ∀ (lookup : Lookup) (crcExtra : UInt8) (frame : Frame) (packet : Packet)
    (part : FramePart) (i : Nat) (b : UInt8),
    frame.Admissible lookup crcExtra → part.place? frame = some i →
    part.byte? crcExtra frame ≠ some b → ∀ (more : List UInt8) (counts : FindingCounts),
    let altered := (frame.encode crcExtra packet).bytes.set i b ++ more
    let counted := { counts with badChecksum := counts.badChecksum + 1 }
    ∃ received computed, received ≠ computed ∧
      let cause := Rejection.checksumMismatch frame.received.message received computed
      examine lookup frame.version altered = .rejected cause ∧
      poll lookup ⟨altered, counts⟩ =
        (let (findings, after) := poll lookup ⟨altered.drop 1, counted⟩
        (.rejected cause :: findings, after)) ∧
      pushAll lookup altered ⟨[], counts⟩ =
        (let (findings, after) := drain lookup ⟨altered.drop 1, counted⟩
        (.rejected cause :: findings, after))
  := by
  constructor
  · intro crcExtra i bytes others hlength hne agree
    apply Checksum.ofFrame_ne_of_agreeBut hlength hne agree
  · intro lookup crcExtra frame packet part i b admissible hplace hother more counts altered
      counted
    have hverdict := Frame.examine_wire admissible []
    rw [List.append_nil] at hverdict
    rw [← Frame.getElem?_wire crcExtra hplace] at hother
    obtain ⟨hopen, hlt⟩ := FramePart.isOpen_of_place? hplace
    obtain ⟨received, computed, hne, hrejected⟩ := examine_set hverdict hopen hlt hother
    have hexamine : examine lookup frame.version altered =
        .rejected (.checksumMismatch frame.received.message received computed) := by
      simp only [altered]
      rw [Frame.bytes_encode, examine_append more (by rw [hrejected]; simp), hrejected]
    have hstep : SearchStep lookup altered
        (some (.rejected (.checksumMismatch frame.received.message received computed)))
        (altered.drop 1) := by
      obtain ⟨j, rfl⟩ := Nat.exists_eq_add_of_le' (Version.pos_of_isOpen hopen)
      obtain ⟨bytes, hbytes⟩ := frame.exists_wire_eq_cons crcExtra
      simp only [altered] at hexamine ⊢
      rw [Frame.bytes_encode, hbytes, List.set_cons_succ, List.cons_append] at hexamine ⊢
      apply SearchStep.rejected (Version.ofMarker?_marker frame.version) hexamine
    exact ⟨received, computed, hne, hexamine, poll_of_rejected hstep counts,
      pushAll_of_rejected hstep counts⟩

/-- A link test whose sequence number is altered, and two checksums that are different. -/
theorem rejected_of_altered_linkTest :
  let frame := LinkTest.format.frame ⟨7, Single.zero⟩ ⟨1⟩ ⟨1⟩ 0
  let lookup := Lookup.ofList [LinkTest.format.descriptor]
  let crcExtra := LinkTest.format.crcExtra
  let altered := (frame.encode crcExtra Packet.blank).bytes.set 4 9 ++ [0xfd]
  (Checksum.AgreeBut 1 [1, 2, 3, 4] [1, 0, 0, 4] ∧
    Checksum.ofFrame [1, 2, 3, 4] crcExtra ≠ Checksum.ofFrame [1, 0, 0, 4] crcExtra) ∧
  frame.Admissible lookup crcExtra ∧ FramePart.sequence.place? frame = some 4 ∧
    FramePart.sequence.byte? crcExtra frame ≠ some 9 ∧
    ∃ received computed, received ≠ computed ∧
      let cause := Rejection.checksumMismatch LinkTest.format.id received computed
      examine lookup .v2 altered = .rejected cause ∧
      poll lookup ⟨altered, {}⟩ =
        (let (findings, after) := poll lookup ⟨altered.drop 1, { badChecksum := 1 }⟩
        (.rejected cause :: findings, after)) ∧
      pushAll lookup altered ⟨[], {}⟩ =
        (let (findings, after) := drain lookup ⟨altered.drop 1, { badChecksum := 1 }⟩
        (.rejected cause :: findings, after))
  := by
  intro frame lookup crcExtra altered
  have agree : Checksum.AgreeBut 1 [1, 2, 3, 4] [1, 0, 0, 4] := by
    intro j hj hnext
    match j, hj, hnext with
    | 0, _, _ | 3, _, _ => rfl
    | j + 4, _, _ => rfl
  have admissible : frame.Admissible lookup crcExtra :=
    LinkTest.format.admissible_frame rfl ⟨7, Single.zero⟩ ⟨1⟩ ⟨1⟩ 0
  have hother : FramePart.sequence.byte? crcExtra frame ≠ some 9 := by decide
  refine ⟨⟨agree, ?_⟩, admissible, rfl, hother, ?_⟩
  · apply rejected_of_altered.1 crcExtra 1 [1, 2, 3, 4] [1, 0, 0, 4] rfl (by decide) agree
  · apply rejected_of_altered.2 lookup crcExtra frame Packet.blank .sequence 4 9 admissible rfl
      hother [0xfd] {}

end Deframer

end FlightBus

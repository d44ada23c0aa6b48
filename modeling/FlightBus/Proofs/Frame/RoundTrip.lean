import FlightBus.Message.Flight
import FlightBus.Proofs.Frame.Schedule
import FlightBus.Proofs.Frame.Wire

/-!
# The round trip of frames

A transfer is a frame that a sender encodes for a receiver which knows its message type and
accepts its flags and its length.  When the bytes of transfers are handed over one behind
the other, the receiver finds the frames of the transfers, in order and nothing else, each
at the call that hands over its last byte, by whatever schedule the bytes arrive.

The invariant is that the window holds the beginning of the next transfer, which is a
candidate that cannot be decided.  A byte leaves it so or completes the transfer, and then
the window is empty.
-/

namespace FlightBus

/-! ### Transfers -/

/-- A frame on its way to a receiver that accepts it. -/
structure Transfer (lookup : Lookup) where
  /-- The frame. -/
  frame : Frame
  /-- The descriptor of its message type. -/
  descriptor : Descriptor
  /-- The packet that it is encoded into. -/
  packet : Packet
  /-- The receiver knows the message type by its descriptor. -/
  known : lookup frame.message = some descriptor
  /-- The receiver accepts the flags, the message type and the length of the payload. -/
  accepted :
    match frame.version with
    | .v1 => frame.message.toNat < 256 ∧ frame.payload.bytes.length = descriptor.minLength
    | .v2 => frame.incompatFlags &&& ~~~0x01 = 0 ∧
        frame.payload.bytes.length ≤ descriptor.maxLength

namespace Transfer

variable {lookup : Lookup}

/-- The bytes of the encoded frame. -/
def bytes (transfer : Transfer lookup) : List UInt8 :=
  (transfer.frame.encode transfer.descriptor.crcExtra transfer.packet).bytes

/-- The frame as it arrives.  In the first version there are no flags and no signature; in
the second the flag of a signature says whether there is one. -/
def arrival (transfer : Transfer lookup) : Frame :=
  match transfer.frame.version with
  | .v1 => { transfer.frame with incompatFlags := 0, compatFlags := 0, signature := none }
  | .v2 =>
      { transfer.frame with incompatFlags := if transfer.frame.isSigned then 0x01 else 0 }

theorem bytes_eq_wire (transfer : Transfer lookup) :
  transfer.bytes = transfer.frame.wire transfer.descriptor.crcExtra
  := by
  apply Frame.bytes_encode

/-- Of flags that are understood, setting or clearing the flag of a signature leaves that
flag alone. -/
theorem signedFlag_of_supported {flags : UInt8} (h : flags &&& ~~~0x01 = 0) :
  flags ||| signedFlag = 0x01 ∧ flags &&& ~~~signedFlag = 0
  := by
  rcases flags_of_supported h with rfl | rfl
  · decide
  · decide

/-- A frame is received as it arrives. -/
theorem received_eq (transfer : Transfer lookup) :
  transfer.frame.received = transfer.arrival
  := by
  rcases transfer with ⟨⟨version, incompat, compat, sequence, system, component, id, payload,
    signature⟩, descriptor, packet, known, accepted⟩
  cases version with
  | v1 =>
      obtain ⟨hid, -⟩ := accepted
      rcases id with ⟨n, hn⟩
      have hbyte : MessageId.ofByte (MessageId.lowByte ⟨n, hn⟩) = ⟨n, hn⟩ := by
        simp only [MessageId.ofByte, MessageId.lowByte, UInt8.toNat_ofNat', MessageId.mk.injEq]
        apply Nat.mod_eq_of_lt hid
      simp only [Frame.received, Frame.header, Frame.sentSignature, arrival, hbyte]
  | v2 =>
      obtain ⟨hset, hclear⟩ := signedFlag_of_supported accepted.1
      cases signature with
      | none => simp [Frame.received, Frame.header, Frame.sentSignature, arrival,
          Frame.isSigned, hclear]
      | some signature => simp [Frame.received, Frame.header, Frame.sentSignature, arrival,
          Frame.isSigned, hset]

theorem admissible (transfer : Transfer lookup) :
  transfer.frame.Admissible lookup transfer.descriptor.crcExtra
  := by
  have haccepted := transfer.accepted
  refine ⟨?_, transfer.descriptor, ?_, rfl, ?_⟩
  · rw [received_eq, arrival]
    cases transfer.frame.version with
    | v1 => apply UInt8.zero_and
    | v2 =>
        dsimp only
        split
        · decide
        · decide
  · rw [received_eq, arrival]
    cases transfer.frame.version with
    | v1 => apply transfer.known
    | v2 => apply transfer.known
  · cases hversion : transfer.frame.version with
    | v1 =>
        rw [hversion] at haccepted
        apply haccepted.2
    | v2 =>
        rw [hversion] at haccepted
        apply haccepted.2

/-- A search finds the frame of a transfer in its bytes. -/
theorem step (transfer : Transfer lookup) :
  SearchStep lookup transfer.bytes (some (.frame transfer.arrival)) []
  := by
  have hstep := transfer.admissible.step []
  rw [List.append_nil, received_eq, ← bytes_eq_wire] at hstep
  apply hstep

theorem length_bytes_pos (transfer : Transfer lookup) :
  0 < transfer.bytes.length
  := by
  obtain ⟨rest, hrest⟩ := transfer.frame.exists_wire_eq_cons transfer.descriptor.crcExtra
  rw [bytes_eq_wire, hrest, List.length_cons]
  apply Nat.zero_lt_succ

end Transfer

/-! ### Parts of transfers -/

variable {lookup : Lookup}

/-- Some bytes are a part of a transfer: they are its beginning and not all of it, or there
are none. -/
def IsPart (lookup : Lookup) (bytes : List UInt8) : Prop :=
  bytes = [] ∨ ∃ (transfer : Transfer lookup) (missing : List UInt8),
    missing ≠ [] ∧ transfer.bytes = bytes ++ missing

/-- A part of a transfer cannot be decided. -/
theorem IsPart.stuck {bytes : List UInt8} (isPart : IsPart lookup bytes) :
  Stuck lookup bytes
  := by
  rcases isPart with rfl | ⟨transfer, missing, hmissing, hbytes⟩
  · apply Stuck.nil
  · rcases stuck_or_step lookup bytes with hstuck | ⟨finding, rest, hstep⟩
    · apply hstuck
    · -- A step would be the one that the whole transfer takes, which leaves nothing.
      have hwhole := hstep.append missing
      rw [← hbytes] at hwhole
      have hrest := (hwhole.unique transfer.step).2
      exact absurd (List.append_eq_nil_iff.mp hrest).2 hmissing

/-- The beginning of a part is a part. -/
theorem IsPart.of_append {bytes more : List UInt8} (isPart : IsPart lookup (bytes ++ more)) :
  IsPart lookup bytes
  := by
  rcases isPart with hnil | ⟨transfer, missing, hmissing, hbytes⟩
  · left
    apply (List.append_eq_nil_iff.mp hnil).1
  · right
    use transfer, more ++ missing
    constructor
    · apply List.append_ne_nil_of_right_ne_nil
      apply hmissing
    · rw [hbytes, List.append_assoc]

/-- The bytes in a window and those to come are the bytes of transfers and a part of one
more, and the window does not hold a whole transfer. -/
structure Expects (window upcoming : List UInt8) (transfers : List (Transfer lookup))
    (part : List UInt8) : Prop where
  split_eq : window ++ upcoming = transfers.flatMap Transfer.bytes ++ part
  isPart : IsPart lookup part
  length_lt : ∀ first ∈ transfers.head?, window.length < first.bytes.length

namespace Expects

variable {window upcoming part : List UInt8} {b : UInt8} {transfers : List (Transfer lookup)}

/-- An empty window does not hold a transfer. -/
theorem of_nil (isPart : IsPart lookup part)
    (split_eq : upcoming = transfers.flatMap Transfer.bytes ++ part) :
  Expects [] upcoming transfers part
  := by
  constructor
  · apply split_eq
  · apply isPart
  · intro first _
    apply first.length_bytes_pos

/-- The window holds a part of a transfer. -/
theorem isPart_window (expects : Expects window upcoming transfers part) :
  IsPart lookup window
  := by
  obtain ⟨hsplit, hpart, hlength⟩ := expects
  cases transfers with
  | nil =>
      rw [List.flatMap_nil, List.nil_append] at hsplit
      rw [← hsplit] at hpart
      apply hpart.of_append
  | cons first others =>
      right
      have hshort := hlength first rfl
      rw [List.flatMap_cons, List.append_assoc] at hsplit
      obtain ⟨missing, hmissing⟩ := List.prefix_of_prefix_length_le
        (List.prefix_append window upcoming) (hsplit ▸ List.prefix_append _ _)
        (Nat.le_of_lt hshort)
      use first, missing
      constructor
      · rintro rfl
        rw [← hmissing, List.append_nil] at hshort
        apply Nat.lt_irrefl _ hshort
      · apply hmissing.symm

/-- One more byte leaves a part of a transfer in the window, or it completes the first
transfer. -/
theorem byte (expects : Expects window (b :: upcoming) transfers part) :
  Expects (window ++ [b]) upcoming transfers part ∨
    ∃ first others, transfers = first :: others ∧ window ++ [b] = first.bytes ∧
      Expects [] upcoming others part
  := by
  obtain ⟨hsplit, hpart, hlength⟩ := expects
  rw [List.append_cons] at hsplit
  cases transfers with
  | nil =>
      left
      constructor
      · apply hsplit
      · apply hpart
      · intro first hfirst
        cases hfirst
  | cons first others =>
      have hshort := hlength first rfl
      have hsize : (window ++ [b]).length = window.length + 1 := List.length_append
      rcases Nat.lt_or_eq_of_le (Nat.succ_le_of_lt hshort) with hlt | heq
      · left
        constructor
        · apply hsplit
        · apply hpart
        · intro other hother
          cases hother
          rw [hsize]
          apply hlt
      · right
        rw [List.flatMap_cons, List.append_assoc first.bytes] at hsplit
        obtain ⟨hfirst, hothers⟩ := List.append_inj hsplit (hsize.trans heq)
        exact ⟨first, others, rfl, hfirst, of_nil hpart hothers⟩

/-- When no bytes are to come, the window holds the part that is left. -/
theorem window_eq (expects : Expects window [] transfers part) :
  transfers = [] ∧ window = part
  := by
  obtain ⟨hsplit, -, hlength⟩ := expects
  rw [List.append_nil] at hsplit
  cases transfers with
  | nil => exact ⟨rfl, hsplit⟩
  | cons first others =>
      exfalso
      have hshort := hlength first rfl
      rw [hsplit, List.flatMap_cons, List.append_assoc, List.length_append] at hshort
      omega

end Expects

/-! ### Calls -/

/-- The finding of a transfer. -/
def Transfer.finding (transfer : Transfer lookup) : Finding :=
  .frame transfer.arrival

namespace Deframer

variable {deframer : Deframer} {upcoming part : List UInt8} {b : UInt8}
  {transfers : List (Transfer lookup)}

/-- What a deframer that expects transfers does with a byte: it finds the first transfer if
the byte completes it, and else nothing.  A search for all frames finds no more than a search
for one. -/
theorem push_of_expects (expects : Expects deframer.window (b :: upcoming) transfers part) :
  ∃ found others after,
    transfers = found ++ others ∧
    deframer.push lookup b = (found.map Transfer.finding, after) ∧
    (deframer.append [b]).drain lookup = (found.map Transfer.finding, after) ∧
    Expects after.window upcoming others part
  := by
  rcases expects.byte with hpart | ⟨first, others, rfl, hwhole, hothers⟩
  · have hstuck : Stuck lookup (deframer.append [b]).window := hpart.isPart_window.stuck
    use [], transfers, deframer.append [b], rfl
    refine ⟨?_, ?_, hpart⟩
    · rw [push, poll, hstuck.search_eq]
      rfl
    · rw [drain, hstuck.drain_eq]
      rfl
  · have hstep : SearchStep lookup (deframer.append [b]).window (some first.finding) [] := by
      rw [append, hwhole]
      apply first.step
    use [first], others, ⟨[], deframer.counts.add first.finding⟩, rfl
    refine ⟨?_, ?_, hothers⟩
    · rw [push, poll, hstep.search_eq]
      rfl
    · rw [drain, hstep.drain_eq, Stuck.nil.drain_eq]
      rfl

/-- What a deframer that expects transfers finds at a call are the transfers that the bytes
of the call complete. -/
theorem answer_of_expects (call : DeframerCall)
    (expects : Expects deframer.window (call.bytes ++ upcoming) transfers part) :
  ∃ found others after,
    transfers = found ++ others ∧
    deframer.answer lookup call = (found.map Transfer.finding, after) ∧
    Expects after.window upcoming others part
  := by
  cases call with
  | push byte =>
      obtain ⟨found, others, after, hsplit, hpush, -, hafter⟩ := push_of_expects expects
      exact ⟨found, others, after, hsplit, hpush, hafter⟩
  | poll =>
      use [], transfers, deframer, rfl
      refine ⟨?_, expects⟩
      rw [answer, poll, expects.isPart_window.stuck.search_eq]
      rfl
  | pushAll bytes =>
      simp only [answer, DeframerCall.bytes] at expects ⊢
      induction bytes generalizing deframer transfers with
      | nil => exact ⟨[], transfers, deframer, rfl, rfl, expects⟩
      | cons byte bytes ih =>
          obtain ⟨first, rest, middle, rfl, -, hdrain, hmiddle⟩ := push_of_expects expects
          obtain ⟨found, others, after, rfl, hpush, hafter⟩ := ih hmiddle
          refine ⟨first ++ found, others, after, (List.append_assoc ..).symm, ?_, hafter⟩
          rw [pushAll, hdrain]
          dsimp only
          rw [hpush, List.map_append]

/-- A deframer that expects transfers finds them, whatever the schedule. -/
theorem answerAll_of_expects {calls : List DeframerCall}
    (expects : Expects deframer.window (DeframerCall.stream calls) transfers part) :
  ∃ counts, answerAll lookup calls deframer = (transfers.map Transfer.finding, ⟨part, counts⟩)
  := by
  induction calls generalizing deframer transfers with
  | nil =>
      obtain ⟨rfl, rfl⟩ := expects.window_eq
      exact ⟨deframer.counts, rfl⟩
  | cons call calls ih =>
      rw [DeframerCall.stream, List.flatMap_cons] at expects
      obtain ⟨first, others, middle, rfl, hanswer, hmiddle⟩ := answer_of_expects call expects
      obtain ⟨counts, hothers⟩ := ih hmiddle
      use counts
      rw [answerAll, hanswer]
      dsimp only
      rw [hothers, List.map_append]

/-- Finding transfers counts frames and nothing else. -/
theorem addAll_findings (counts : FindingCounts) (transfers : List (Transfer lookup)) :
  counts.addAll (transfers.map Transfer.finding) =
    { counts with frames := counts.frames + UInt32.ofNat transfers.length }
  := by
  have hframes := counts.addAll_frames (transfers.map Transfer.arrival)
  rw [List.map_map, List.length_map] at hframes
  apply hframes

/-- When the bytes of transfers were handed over to a deframer with an empty window, and of
one more transfer a part, then whatever the schedule the deframer has found the frames of
the transfers as they arrive, in order, and nothing else.  It has counted them and no
rejections, and its window holds the part, so it is empty if there is none.  The call that
hands over the last byte that is missing of a transfer finds its frame. -/
theorem answerAll_transfers (transfers : List (Transfer lookup)) (isPart : IsPart lookup part)
    {calls : List DeframerCall}
    (stream : DeframerCall.stream calls = transfers.flatMap Transfer.bytes ++ part)
    (counts : FindingCounts) :
  let after : Deframer :=
    ⟨part, { counts with frames := counts.frames + UInt32.ofNat transfers.length }⟩
  answerAll lookup calls ⟨[], counts⟩ =
      (transfers.map (fun transfer => .frame transfer.arrival), after) ∧
    ∀ (next : Transfer lookup) (last : UInt8), next.bytes = part ++ [last] →
      ∀ call : DeframerCall, call.bytes = [last] →
        (after.answer lookup call).1 = [.frame next.arrival] ∧
          (after.answer lookup call).2.window = []
  := by
  intro after
  constructor
  · have expects : Expects (Deframer.mk [] counts).window (DeframerCall.stream calls)
        transfers part := Expects.of_nil isPart stream
    obtain ⟨others, hanswers⟩ := answerAll_of_expects expects
    have hcounts := counts_answerAll lookup calls ⟨[], counts⟩
    rw [hanswers, addAll_findings] at hcounts
    dsimp only at hcounts
    rw [hanswers, hcounts]
    rfl
  · intro next last hnext call hcall
    have expects : Expects after.window (call.bytes ++ []) [next] [] := by
      rw [hcall]
      constructor
      · rw [List.append_nil, List.flatMap_singleton, List.append_nil, hnext]
      · left
        rfl
      · intro first hfirst
        cases hfirst
        rw [hnext, List.length_append]
        apply Nat.lt_succ_self
    obtain ⟨found, others, rest, hsplit, hanswer, hrest⟩ := answer_of_expects call expects
    obtain ⟨rfl, hwindow⟩ := hrest.window_eq
    rw [List.append_nil] at hsplit
    rw [hanswer, ← hsplit]
    exact ⟨rfl, hwindow⟩

/-- A heartbeat of the first version and a signed link test arrive, the one without its
flags and its signature and the other with the flag of its signature, although their
payloads look like the start of frames; a marker behind them stays in the window. -/
theorem answerAll_transfers_markers :
  let lookup := Lookup.ofList [LinkTest.format.descriptor, Heartbeat.format.descriptor]
  let signature : Signature := ⟨List.replicate 13 0xaa, rfl⟩
  let beat : Transfer lookup :=
    { frame :=
        { version := .v1, incompatFlags := 0x80, compatFlags := 5, sequence := 254,
          system := ⟨1⟩, component := ⟨2⟩, message := Heartbeat.format.id,
          payload := ⟨[0xfd, 0xfe, 0xfd, 0, 0, 0, 0, 0, 0], by decide⟩,
          signature := some signature }
      descriptor := Heartbeat.format.descriptor
      packet := Packet.blank
      known := rfl
      accepted := by decide }
  let test : Transfer lookup :=
    { frame :=
        { compatFlags := 5, sequence := 255, system := ⟨1⟩, component := ⟨2⟩,
          message := LinkTest.format.id, payload := ⟨[0xfe, 0xfd], by decide⟩,
          signature := some signature }
      descriptor := LinkTest.format.descriptor
      packet := Packet.blank
      known := rfl
      accepted := by decide }
  let calls : List DeframerCall := [.pushAll (beat.bytes ++ test.bytes), .poll, .push 0xfd]
  IsPart lookup [0xfd] ∧
    DeframerCall.stream calls = [beat, test].flatMap Transfer.bytes ++ [0xfd] ∧
    answerAll lookup calls {} =
      ([.frame { beat.frame with incompatFlags := 0, compatFlags := 0, signature := none },
        .frame { test.frame with incompatFlags := 0x01 }],
        ⟨[0xfd], { frames := 2 }⟩)
  := by
  intro lookup signature beat test calls
  have isPart : IsPart lookup [0xfd] := by
    right
    obtain ⟨missing, hmissing⟩ := test.frame.exists_wire_eq_cons test.descriptor.crcExtra
    use test, missing
    constructor
    · rintro rfl
      have hlength := congrArg List.length hmissing
      rw [Frame.length_wire] at hlength
      exact absurd hlength (by decide)
    · rw [Transfer.bytes_eq_wire, hmissing]
      rfl
  have stream : DeframerCall.stream calls = [beat, test].flatMap Transfer.bytes ++ [0xfd] := by
    simp [calls, DeframerCall.stream, DeframerCall.bytes]
  exact ⟨isPart, stream, (answerAll_transfers [beat, test] isPart stream {}).1⟩

end Deframer

end FlightBus

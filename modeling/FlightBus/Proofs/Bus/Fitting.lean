import FlightBus.Proofs.Bus.Attempts
import FlightBus.Proofs.Frame.RoundTrip
import FlightBus.Proofs.Link.BoundedSinks

/-!
# Frames that fit

A multiplexer that works on a sink of bounded size offers its frames one by one.  A frame is
taken if it fits into the room that is left when it is offered, and a shorter one may fit
after a longer one did not.  `Traffic.fitting` is this choice.  Since the sequence number goes
on with the frames that are taken only, the sink holds the frames that were taken since it
was cleared, one behind the other and numbered in sequence, and a deframer that knows their
message types finds these frames and nothing else.
-/

namespace FlightBus

variable {D : Dialect}

/-! ### The choice -/

namespace Traffic

/-- The number of bytes of the frame of a message. -/
def size (entry : Outlet × D.Message) : Nat :=
  Version.v2.headerSize + sentLength ((D.format entry.2.1).fullPayload entry.2.2) +
    Checksum.size

/-- The number of bytes of the frames of messages. -/
def totalSize : Traffic D → Nat
  | [] => 0
  | entry :: traffic => size entry + totalSize traffic

/-- The messages whose frames are taken when they are offered in order to a sink with some
room: each that fits into the room that is left. -/
def fitting : Nat → Traffic D → Traffic D
  | _, [] => []
  | room, entry :: traffic =>
      if size entry ≤ room then
        entry :: fitting (room - size entry) traffic
      else
        fitting room traffic

theorem fitting_cons_of_le {room : Nat} {entry : Outlet × D.Message} (traffic : Traffic D)
    (h : size entry ≤ room) :
  fitting room (entry :: traffic) = entry :: fitting (room - size entry) traffic
  := if_pos h

theorem fitting_cons_of_lt {room : Nat} {entry : Outlet × D.Message} (traffic : Traffic D)
    (h : room < size entry) :
  fitting room (entry :: traffic) = fitting room traffic
  := if_neg (Nat.not_le_of_lt h)

/-- The choice goes on with the room that is left. -/
theorem fitting_append (room : Nat) (traffic others : Traffic D) :
  fitting room (traffic ++ others) =
    fitting room traffic ++ fitting (room - totalSize (fitting room traffic)) others
  := by
  induction traffic generalizing room with
  | nil => rfl
  | cons entry traffic ih =>
      rw [List.cons_append]
      by_cases hfits : size entry ≤ room
      · rw [fitting_cons_of_le _ hfits, fitting_cons_of_le _ hfits, ih, List.cons_append,
          totalSize, Nat.sub_sub]
      · have hlt := Nat.lt_of_not_le hfits
        rw [fitting_cons_of_lt _ hlt, fitting_cons_of_lt _ hlt, ih]

theorem totalSize_singleton (entry : Outlet × D.Message) :
  totalSize [entry] = size entry
  := Nat.add_zero _

theorem length_wire_frame (sequence : UInt8) (entry : Outlet × D.Message) :
  ((frame sequence entry.1 entry.2).wire (D.format entry.2.1).crcExtra).length = size entry
  := by
  rw [Frame.wire, List.length_append, length_withChecksum, List.length_append,
    Header.length_bytes]
  change Version.v2.headerSize + ((D.format entry.2.1).payload entry.2.2).bytes.length +
    Checksum.size + 0 = _
  rw [Format.length_payload]
  rfl

theorem length_stream (sequence : UInt8) (traffic : Traffic D) :
  (stream sequence traffic).length = totalSize traffic
  := by
  induction traffic generalizing sequence with
  | nil => rfl
  | cons entry traffic ih =>
      rw [stream, List.length_append, ih, length_wire_frame sequence entry]
      rfl

theorem stream_cons (sequence : UInt8) (entry : Outlet × D.Message) (traffic : Traffic D) :
  stream sequence (entry :: traffic) = stream sequence [entry] ++ stream (sequence + 1) traffic
  := stream_append sequence [entry] traffic

/-- The frames of messages are numbered in sequence. -/
theorem sequence_frames (sequence : UInt8) (traffic : Traffic D) {k : Nat} {frame : Frame}
    (h : (frames sequence traffic)[k]? = some frame) :
  frame.sequence = sequence + UInt8.ofNat k
  := by
  induction traffic generalizing sequence k with
  | nil => cases h
  | cons entry traffic ih =>
      cases k with
      | zero =>
          cases h
          symm
          apply UInt8.add_zero
      | succ k =>
          rw [ih (sequence + 1) h, Nat.add_comm, UInt8.ofNat_add, UInt8.add_assoc]
          rfl

/-- The frames of messages whose types a receiver knows are transfers to it. -/
theorem exists_transfers {lookup : Lookup} (sequence : UInt8) {traffic : Traffic D}
    (known : Known lookup traffic) :
  ∃ transfers : List (Transfer lookup),
    transfers.flatMap Transfer.bytes = stream sequence traffic ∧
    transfers.map Transfer.arrival = frames sequence traffic
  := by
  induction traffic generalizing sequence with
  | nil => exact ⟨[], rfl, rfl⟩
  | cons entry traffic ih =>
      obtain ⟨outlet, message⟩ := entry
      obtain ⟨hknown, hothers⟩ := List.forall_mem_cons.mp known
      obtain ⟨transfers, hstream, hframes⟩ := ih (sequence + 1) hothers
      have hlength : ((D.format message.1).payload message.2).bytes.length ≤
          (D.format message.1).maxLength := by
        rw [Format.length_payload, ← (D.format message.1).length_fullPayload message.2]
        apply sentLength_le
      let first : Transfer lookup :=
        { frame := frame sequence outlet message
          descriptor := (D.format message.1).descriptor
          packet := Packet.blank
          known := hknown
          accepted := ⟨UInt8.zero_and, hlength⟩ }
      use first :: transfers
      constructor
      · rw [List.flatMap_cons, hstream, first.bytes_eq_wire]
        rfl
      · rw [List.map_cons, hframes]
        rfl

end Traffic

/-! ### Writing into a bounded sink -/

namespace Multiplexer

theorem bytes_encode_stream (sequence : UInt8) (entry : Outlet × D.Message)
    (packet : Packet) :
  ((D.format entry.2.1).encode entry.2.2 entry.1.system entry.1.component sequence
      packet).bytes =
    Traffic.stream sequence [entry]
  := by
  rw [Format.bytes_encode]
  symm
  apply List.append_nil

/-- A frame that fits is written behind the contents and numbered. -/
theorem emit_of_le (state : Emission BoundedSink) (entry : Outlet × D.Message)
    (h : Traffic.size entry ≤ state.sink.capacity - state.sink.contents.length) :
  (emit entry.1 state entry.2).sink = ⟨state.sink.capacity,
      state.sink.contents ++ Traffic.stream state.mux.sequence [entry]⟩ ∧
    (emit entry.1 state entry.2).mux.sequence = state.mux.sequence + 1
  := by
  have hwrite : ByteSink.write? state.sink (Traffic.stream state.mux.sequence [entry]) =
      some ⟨state.sink.capacity,
        state.sink.contents ++ Traffic.stream state.mux.sequence [entry]⟩ := by
    rw [← Traffic.totalSize_singleton, ← Traffic.length_stream state.mux.sequence] at h
    apply if_pos h
  simp only [emit, bytes_encode_stream, hwrite, and_self]

/-- A frame that does not fit changes neither the sink nor the sequence number. -/
theorem emit_of_lt (state : Emission BoundedSink) (entry : Outlet × D.Message)
    (h : state.sink.capacity - state.sink.contents.length < Traffic.size entry) :
  (emit entry.1 state entry.2).sink = state.sink ∧
    (emit entry.1 state entry.2).mux.sequence = state.mux.sequence
  := by
  have hwrite : ByteSink.write? state.sink (Traffic.stream state.mux.sequence [entry]) =
      none := by
    rw [← Traffic.totalSize_singleton, ← Traffic.length_stream state.mux.sequence] at h
    apply if_neg (Nat.not_le_of_lt h)
  simp only [emit, bytes_encode_stream, hwrite, and_true]
  rfl

/-- Of messages that are written into a bounded sink, those whose frames fit are stored. -/
theorem emitAll_bounded (state : Emission BoundedSink) (traffic : Traffic D) :
  let accepted :=
    Traffic.fitting (state.sink.capacity - state.sink.contents.length) traffic
  (emitAll state traffic).sink = ⟨state.sink.capacity,
      state.sink.contents ++ Traffic.stream state.mux.sequence accepted⟩ ∧
    (emitAll state traffic).mux.sequence =
      state.mux.sequence + UInt8.ofNat accepted.length
  := by
  induction traffic generalizing state with
  | nil =>
      constructor
      · change state.sink = ⟨state.sink.capacity, state.sink.contents ++ []⟩
        rw [List.append_nil]
      · symm
        apply UInt8.add_zero
  | cons entry traffic ih =>
      obtain ⟨hsink, hsequence⟩ := ih (emit entry.1 state entry.2)
      rw [emitAll_cons]
      by_cases hfits :
          Traffic.size entry ≤ state.sink.capacity - state.sink.contents.length
      · obtain ⟨hfirst, hnext⟩ := emit_of_le state entry hfits
        have hlength := Traffic.length_stream state.mux.sequence [entry]
        rw [Traffic.totalSize_singleton] at hlength
        rw [hfirst, hnext, List.length_append, hlength, ← Nat.sub_sub] at hsink hsequence
        rw [Traffic.fitting_cons_of_le _ hfits]
        constructor
        · apply hsink.trans
          rw [List.append_assoc, ← Traffic.stream_cons]
        · apply hsequence.trans
          rw [List.length_cons, Nat.add_comm, UInt8.ofNat_add, UInt8.add_assoc]
          rfl
      · obtain ⟨hfirst, hnext⟩ := emit_of_lt state entry (Nat.lt_of_not_le hfits)
        rw [hfirst, hnext] at hsink hsequence
        rw [Traffic.fitting_cons_of_lt _ (Nat.lt_of_not_le hfits)]
        exact ⟨hsink, hsequence⟩

end Multiplexer

/-! ### Sinks of bounded size -/

/-- A multiplexer at work on a sink of which all but its capacity and its contents is
forgotten. -/
def Emission.abstract {σ : Type} [StoringSink σ] (capacity : Nat) (state : Emission σ) :
    Emission BoundedSink :=
  ⟨state.mux, StoringSink.abstract capacity state.sink, state.records⟩

namespace AllOrNothing

open Multiplexer

variable {σ : Type} [StoringSink σ] {capacity : Nat} {IsValid : σ → Prop}

/-- Work on a sink of bounded size is work on a bounded sink. -/
theorem emit_abstract (allOrNothing : AllOrNothing σ capacity IsValid) {state : Emission σ}
    (valid : IsValid state.sink) (outlet : Outlet) (message : D.Message) :
  IsValid (emit outlet state message).sink ∧
    emit outlet (state.abstract capacity) message =
      (emit outlet state message).abstract capacity
  := by
  have hbytes := bytes_encode_stream state.mux.sequence (outlet, message) state.mux.packet
  dsimp only at hbytes
  rcases allOrNothing.write?_cases valid (Traffic.stream state.mux.sequence [(outlet, message)])
    with ⟨after, hwrite, hvalid, habstract⟩ | ⟨hwrite, hrefuse, habstract⟩
  · simp only [emit, Emission.abstract, hbytes, hwrite, habstract, and_true]
    apply hvalid
  · simp only [emit, Emission.abstract, hbytes, hwrite, habstract, hrefuse]
    exact ⟨valid, rfl⟩

theorem foldl_emit_abstract (allOrNothing : AllOrNothing σ capacity IsValid)
    {state : Emission σ} (valid : IsValid state.sink) (outlet : Outlet)
    (messages : List D.Message) :
  IsValid (messages.foldl (emit outlet) state).sink ∧
    messages.foldl (emit outlet) (state.abstract capacity) =
      (messages.foldl (emit outlet) state).abstract capacity
  := by
  induction messages generalizing state with
  | nil => exact ⟨valid, rfl⟩
  | cons message messages ih =>
      obtain ⟨hvalid, hfirst⟩ := allOrNothing.emit_abstract valid outlet message
      rw [List.foldl_cons, List.foldl_cons, hfirst]
      apply ih hvalid

theorem foldl_flushOutlet_abstract (allOrNothing : AllOrNothing σ capacity IsValid)
    {state : Emission σ} (valid : IsValid state.sink) (outlets : List Outlet)
    (hub : Hub D.Message) :
  let result := outlets.foldl (fun (hub, state) outlet => flushOutlet hub state outlet)
    (hub, state)
  IsValid result.2.sink ∧
    outlets.foldl (fun (hub, state) outlet => flushOutlet hub state outlet)
      (hub, state.abstract capacity) = (result.1, result.2.abstract capacity)
  := by
  induction outlets generalizing hub state with
  | nil => exact ⟨valid, rfl⟩
  | cons outlet outlets ih =>
      obtain ⟨hvalid, hfirst⟩ := allOrNothing.foldl_emit_abstract valid outlet
        (hub.takeAll outlet.receiver).1
      have hothers := ih hvalid (hub.takeAll outlet.receiver).2
      rw [← hfirst] at hothers
      apply hothers

/-- Flushing a multiplexer into a sink of bounded size is flushing it into a bounded sink. -/
theorem flush_abstract (allOrNothing : AllOrNothing σ capacity IsValid) {sink : σ}
    (valid : IsValid sink) (mux : Multiplexer) (hub : Hub D.Message) :
  IsValid (mux.flush hub sink).2.sink ∧
    mux.flush hub (StoringSink.abstract capacity sink) =
      ((mux.flush hub sink).1, (mux.flush hub sink).2.abstract capacity)
  := by
  have valid' : IsValid (Emission.mk mux sink []).sink := valid
  apply allOrNothing.foldl_flushOutlet_abstract valid' mux.outlets hub

end AllOrNothing

/-! ### Calls -/

/-- What a transmitter is called for: to add a receiver, to write what waits in a hub, or to
clear its sink. -/
inductive TransmitterCall (D : Dialect)
  | add (outlet : Outlet)
  | flush (hub : Hub D.Message)
  | clear

namespace TransmitterCall

/-- The receivers after a call. -/
def outlets (outlets : List Outlet) : TransmitterCall D → List Outlet
  | add outlet => outlets ++ [outlet]
  | _ => outlets

/-- When what waits is written, the receivers are different ones of a hub that came about by
its operations. -/
def Admitted (outlets : List Outlet) : TransmitterCall D → Prop
  | flush hub => hub.Reachable ∧
      outlets.Pairwise (fun outlet other => outlet.receiver ≠ other.receiver)
  | _ => True

/-- Every call is admitted with the receivers that there are then. -/
def AllAdmitted : List Outlet → List (TransmitterCall D) → Prop
  | _, [] => True
  | outlets, call :: calls =>
      call.Admitted outlets ∧ AllAdmitted (call.outlets outlets) calls

end TransmitterCall

namespace Transmitter

variable {σ : Type} [StoringSink σ]

/-- Answers a call.  If what waits was written, the answer is the hub and the log records. -/
def answer (transmitter : Transmitter σ) :
    TransmitterCall D → Option (Hub D.Message × List Record) × Transmitter σ
  | .add outlet => (none, transmitter.add outlet)
  | .flush hub =>
      let (hub, transmitter, records) := transmitter.flush hub
      (some (hub, records), transmitter)
  | .clear => (none, { transmitter with sink := StoringSink.clear transmitter.sink })

/-- Answers calls, in order. -/
def answerAll (transmitter : Transmitter σ) :
    List (TransmitterCall D) → List (Option (Hub D.Message × List Record)) × Transmitter σ
  | [] => ([], transmitter)
  | call :: calls =>
      let (reply, transmitter) := transmitter.answer call
      let (replies, transmitter) := transmitter.answerAll calls
      (reply :: replies, transmitter)

/-- All of the sink but its capacity and its contents is forgotten. -/
def abstract (capacity : Nat) (transmitter : Transmitter σ) : Transmitter BoundedSink :=
  ⟨transmitter.mux, StoringSink.abstract capacity transmitter.sink⟩

variable {capacity : Nat} {IsValid : σ → Prop} {transmitter : Transmitter σ}

theorem answer_abstract (allOrNothing : AllOrNothing σ capacity IsValid)
    (valid : IsValid transmitter.sink) (call : TransmitterCall D) :
  IsValid (transmitter.answer call).2.sink ∧
    (transmitter.abstract capacity).answer call =
      ((transmitter.answer call).1, (transmitter.answer call).2.abstract capacity)
  := by
  cases call with
  | add outlet => exact ⟨valid, rfl⟩
  | flush hub =>
      obtain ⟨hvalid, hflush⟩ := allOrNothing.flush_abstract valid transmitter.mux hub
      refine ⟨hvalid, ?_⟩
      simp only [answer, flush, abstract, hflush]
      rfl
  | clear =>
      obtain ⟨hvalid, hclear⟩ := allOrNothing.answer_abstract valid .clear
      refine ⟨hvalid, ?_⟩
      have hsink : StoringSink.clear (StoringSink.abstract capacity transmitter.sink) =
          StoringSink.abstract capacity (StoringSink.clear transmitter.sink) :=
        congrArg Prod.snd hclear
      simp only [answer, abstract, hsink]

theorem answerAll_abstract (allOrNothing : AllOrNothing σ capacity IsValid)
    (valid : IsValid transmitter.sink) (calls : List (TransmitterCall D)) :
  IsValid (transmitter.answerAll calls).2.sink ∧
    (transmitter.abstract capacity).answerAll calls =
      ((transmitter.answerAll calls).1, (transmitter.answerAll calls).2.abstract capacity)
  := by
  induction calls generalizing transmitter with
  | nil => exact ⟨valid, rfl⟩
  | cons call calls ih =>
      obtain ⟨hvalid, hanswer⟩ := answer_abstract allOrNothing valid call
      obtain ⟨hafter, hanswers⟩ := ih hvalid
      refine ⟨hafter, ?_⟩
      simp only [answerAll, hanswer, hanswers]

end Transmitter

/-! ### What is offered -/

/-- What a transmitter was offered. -/
structure Offers (D : Dialect) where
  /-- The receivers, in the order in which they were added. -/
  outlets : List Outlet
  /-- The sequence number of the next frame when the sink was cleared for the last time. -/
  start : UInt8
  /-- The messages that were written since then, in order. -/
  offered : Traffic D := []

namespace Offers

/-- The messages whose frames the sink took since it was cleared. -/
def accepted (capacity : Nat) (offers : Offers D) : Traffic D :=
  Traffic.fitting capacity offers.offered

/-- What was offered after a call. -/
def answer (capacity : Nat) (offers : Offers D) : TransmitterCall D → Offers D
  | .add outlet => { offers with outlets := offers.outlets ++ [outlet] }
  | .flush hub =>
      { offers with
        offered := offers.offered ++
          Multiplexer.pending { outlets := offers.outlets } hub }
  | .clear =>
      { offers with
        start := offers.start + UInt8.ofNat (offers.accepted capacity).length
        offered := [] }

/-- What was offered after calls, in order. -/
def answerAll (capacity : Nat) (offers : Offers D) (calls : List (TransmitterCall D)) :
    Offers D :=
  calls.foldl (answer capacity) offers

/-- A transmitter with a bounded sink has written, of what it was offered, the frames that
fit. -/
structure Carried (capacity : Nat) (offers : Offers D) (transmitter : Transmitter BoundedSink) :
    Prop where
  outlets_eq : transmitter.mux.outlets = offers.outlets
  sink_eq : transmitter.sink =
    ⟨capacity, Traffic.stream offers.start (offers.accepted capacity)⟩
  sequence_eq : transmitter.mux.sequence =
    offers.start + UInt8.ofNat (offers.accepted capacity).length

theorem outlets_answer (capacity : Nat) (offers : Offers D) (call : TransmitterCall D) :
  (offers.answer capacity call).outlets = call.outlets offers.outlets
  := by
  cases call <;> rfl

namespace Carried

variable {capacity : Nat} {offers : Offers D} {transmitter : Transmitter BoundedSink}

theorem flush (carried : Carried capacity offers transmitter) {hub : Hub D.Message}
    (reachable : hub.Reachable) (distinct : offers.outlets.Pairwise
      (fun outlet other => outlet.receiver ≠ other.receiver)) :
  Carried capacity (offers.answer capacity (.flush hub))
    (transmitter.answer (.flush hub)).2
  := by
  obtain ⟨houtlets, hsink, hsequence⟩ := carried
  rw [← houtlets] at distinct
  have hflush := Multiplexer.flush_eq_emitAll reachable.sound distinct transmitter.sink
  have hpending : Multiplexer.pending { outlets := offers.outlets } hub =
      transmitter.mux.pending hub := by
    rw [← houtlets]
    rfl
  obtain ⟨hstored, hnext⟩ := Multiplexer.emitAll_bounded
    { mux := transmitter.mux, sink := transmitter.sink } (transmitter.mux.pending hub)
  have hroom : transmitter.sink.capacity - transmitter.sink.contents.length =
      capacity - Traffic.totalSize (offers.accepted capacity) := by
    rw [hsink, Traffic.length_stream]
  have hcontents : transmitter.sink.contents =
      Traffic.stream offers.start (offers.accepted capacity) := by
    rw [hsink]
  have hcapacity : transmitter.sink.capacity = capacity := by
    rw [hsink]
  rw [← hflush] at hstored hnext
  dsimp only at hstored hnext
  rw [hroom, hsequence, hcontents, hcapacity] at hstored
  rw [hroom, hsequence] at hnext
  have haccepted : (offers.answer capacity (.flush hub)).accepted capacity =
      offers.accepted capacity ++
        Traffic.fitting (capacity - Traffic.totalSize (offers.accepted capacity))
          (transmitter.mux.pending hub) := by
    change Traffic.fitting capacity (_ ++ _) = _
    rw [Traffic.fitting_append, hpending]
    rfl
  constructor
  · apply (Multiplexer.outlets_flush reachable.sound distinct transmitter.sink).trans houtlets
  · rw [haccepted, Traffic.stream_append]
    apply hstored
  · rw [haccepted, List.length_append, UInt8.ofNat_add, ← UInt8.add_assoc]
    apply hnext

theorem answer (carried : Carried capacity offers transmitter) {call : TransmitterCall D}
    (admitted : call.Admitted offers.outlets) :
  Carried capacity (offers.answer capacity call) (transmitter.answer call).2
  := by
  cases call with
  | add outlet =>
      constructor
      · change transmitter.mux.outlets ++ [outlet] = offers.outlets ++ [outlet]
        rw [carried.outlets_eq]
      · apply carried.sink_eq
      · apply carried.sequence_eq
  | flush hub => apply carried.flush admitted.1 admitted.2
  | clear =>
      constructor
      · apply carried.outlets_eq
      · change StoringSink.clear transmitter.sink = ⟨capacity, []⟩
        rw [carried.sink_eq]
        rfl
      · apply carried.sequence_eq.trans
        symm
        apply UInt8.add_zero

theorem answerAll (carried : Carried capacity offers transmitter)
    {calls : List (TransmitterCall D)}
    (admitted : TransmitterCall.AllAdmitted offers.outlets calls) :
  Carried capacity (offers.answerAll capacity calls) (transmitter.answerAll calls).2
  := by
  induction calls generalizing offers transmitter with
  | nil => apply carried
  | cons call calls ih =>
      obtain ⟨hcall, hcalls⟩ := admitted
      rw [← outlets_answer capacity] at hcalls
      apply ih (carried.answer hcall) hcalls

end Carried

end Offers

/-! ### Sinks that cannot be told apart -/

namespace AllOrNothing

open StoringSink

variable {σ τ : Type} [StoringSink σ] [StoringSink τ] {capacity : Nat} {IsValid : σ → Prop}
  {IsValid' : τ → Prop} {sink : σ} {other : τ}

/-- Transmitters with sinks of the same capacity and contents reply the same, and their sinks
hold the same. -/
theorem transmitters_agree (allOrNothing : AllOrNothing σ capacity IsValid)
    (allOrNothing' : AllOrNothing τ capacity IsValid') (valid : IsValid sink)
    (valid' : IsValid' other) (same : contents sink = contents other) (mux : Multiplexer)
    (calls : List (TransmitterCall D)) :
  let result := Transmitter.answerAll ⟨mux, sink⟩ calls
  let result' := Transmitter.answerAll ⟨mux, other⟩ calls
  result.1 = result'.1 ∧ result.2.mux = result'.2.mux ∧
    contents result.2.sink = contents result'.2.sink
  := by
  intro result result'
  have hvalid : IsValid (Transmitter.mk mux sink).sink := valid
  have hvalid' : IsValid' (Transmitter.mk mux other).sink := valid'
  obtain ⟨-, hresult⟩ := Transmitter.answerAll_abstract allOrNothing hvalid calls
  obtain ⟨-, hresult'⟩ := Transmitter.answerAll_abstract allOrNothing' hvalid' calls
  have habstract : (Transmitter.mk mux sink).abstract capacity =
      (Transmitter.mk mux other).abstract capacity := by
    simp only [Transmitter.abstract, abstract, same]
  rw [habstract, hresult', Prod.mk.injEq] at hresult
  obtain ⟨hreplies, hafter⟩ := hresult
  refine ⟨hreplies.symm, (congrArg Transmitter.mux hafter).symm, ?_⟩
  symm
  apply congrArg (fun transmitter => transmitter.sink.contents) hafter

/-- What a transmitter writes into an empty sink of bounded size are the frames that fit when
they are offered, numbered in sequence. -/
theorem contents_transmitter (allOrNothing : AllOrNothing σ capacity IsValid)
    (valid : IsValid sink) (empty : contents sink = []) (mux : Multiplexer)
    {calls : List (TransmitterCall D)}
    (admitted : TransmitterCall.AllAdmitted mux.outlets calls) :
  let offers := Offers.answerAll capacity ⟨mux.outlets, mux.sequence, []⟩ calls
  let after := (Transmitter.answerAll ⟨mux, sink⟩ calls).2
  contents after.sink = Traffic.stream offers.start (offers.accepted capacity) ∧
    after.mux.sequence = offers.start + UInt8.ofNat (offers.accepted capacity).length
  := by
  intro offers after
  have hvalid : IsValid (Transmitter.mk mux sink).sink := valid
  obtain ⟨-, hafter⟩ := Transmitter.answerAll_abstract allOrNothing hvalid calls
  have carried : Offers.Carried capacity (⟨mux.outlets, mux.sequence, []⟩ : Offers D)
      ((Transmitter.mk mux sink).abstract capacity) := by
    constructor
    · rfl
    · simp only [Transmitter.abstract, abstract, empty]
      rfl
    · symm
      apply UInt8.add_zero
  have hcarried := carried.answerAll admitted
  rw [hafter] at hcarried
  exact ⟨congrArg BoundedSink.contents hcarried.sink_eq, hcarried.sequence_eq⟩

end AllOrNothing

/-- A deframer that knows the message types finds the frames of messages in their bytes, and
nothing else. -/
theorem Traffic.answerAll_stream {lookup : Lookup} {traffic : Traffic D} (sequence : UInt8)
    (known : Traffic.Known lookup traffic) {schedule : List DeframerCall}
    (stream : DeframerCall.stream schedule = Traffic.stream sequence traffic) :
  Deframer.answerAll lookup schedule {} =
    ((Traffic.frames sequence traffic).map Finding.frame,
      ⟨[], { frames := UInt32.ofNat traffic.length }⟩)
  := by
  obtain ⟨transfers, hstream, hframes⟩ := Traffic.exists_transfers sequence known
  have hlength : transfers.length = traffic.length := by
    rw [← List.length_map, hframes, Traffic.length_frames]
  have isPart : IsPart lookup [] := Or.inl rfl
  have hschedule : DeframerCall.stream schedule = transfers.flatMap Transfer.bytes ++ [] := by
    rw [stream, hstream, List.append_nil]
  obtain ⟨hanswers, -⟩ := Deframer.answerAll_transfers transfers isPart hschedule {}
  change _ = (_, Deframer.mk [] { frames := 0 + UInt32.ofNat transfers.length }) at hanswers
  rw [hanswers, ← hframes, List.map_map, hlength, UInt32.zero_add]
  rfl

/-- A fixed sink with a store of some size, and a sink of any other type that takes up to as
many bytes and takes a write as a whole or not at all, cannot be told apart when both are
empty at first.  By whatever calls, they take and refuse the same writes: those that fit are
taken, the others are refused and change nothing, and what the sinks hold are the writes that
were taken since they were cleared for the last time.

So a transmitter works on the one as on the other.  It writes those of its frames that fit
when they are offered; they carry consecutive sequence numbers, and a new deframer that knows
their message types finds these frames in what the sink holds, and nothing else. -/
theorem sinks_hold_whole_frames {V : Type} [StoringSink V] {capacity : Nat}
    {IsValid : V → Prop} (allOrNothing : AllOrNothing V capacity IsValid) {vector : V}
    (valid : IsValid vector) (empty : StoringSink.contents vector = []) {store : List UInt8}
    (hstore : store.length = capacity) :
  (∀ calls : List SinkCall,
    let fixed := StoringSink.answerAll (FixedSink.mk store 0) calls
    let growing := StoringSink.answerAll vector calls
    fixed.1 = growing.1 ∧ StoringSink.contents fixed.2 = StoringSink.contents growing.2 ∧
      HoldsWhole capacity fixed.1 fixed.2 ∧ HoldsWhole capacity growing.1 growing.2) ∧
  ∀ (D : Dialect) (mux : Multiplexer) (calls : List (TransmitterCall D)),
    let fixed := Transmitter.answerAll ⟨mux, FixedSink.mk store 0⟩ calls
    let growing := Transmitter.answerAll ⟨mux, vector⟩ calls
    fixed.1 = growing.1 ∧ fixed.2.mux = growing.2.mux ∧
      StoringSink.contents fixed.2.sink = StoringSink.contents growing.2.sink ∧
      (TransmitterCall.AllAdmitted mux.outlets calls →
        let offers := Offers.answerAll capacity ⟨mux.outlets, mux.sequence, []⟩ calls
        let accepted := Traffic.fitting capacity offers.offered
        let frames := Traffic.frames offers.start accepted
        StoringSink.contents fixed.2.sink = Traffic.stream offers.start accepted ∧
          fixed.2.mux.sequence = offers.start + UInt8.ofNat accepted.length ∧
          (∀ k frame, frames[k]? = some frame →
            frame.sequence = offers.start + UInt8.ofNat k) ∧
          ∀ (lookup : Lookup) (schedule : List DeframerCall),
            Traffic.Known lookup accepted →
            DeframerCall.stream schedule = StoringSink.contents fixed.2.sink →
            Deframer.answerAll lookup schedule {} =
              (frames.map Finding.frame, ⟨[], { frames := UInt32.ofNat accepted.length }⟩))
  := by
  have allOrNothing' := FixedSink.allOrNothing capacity
  have valid' : (FixedSink.mk store 0).Fits capacity := ⟨hstore, Nat.zero_le capacity⟩
  have empty' : StoringSink.contents (FixedSink.mk store 0) = [] := rfl
  have same : StoringSink.contents (FixedSink.mk store 0) = StoringSink.contents vector := by
    rw [empty', empty]
  constructor
  · intro calls fixed growing
    obtain ⟨hevents, hcontents⟩ :=
      allOrNothing'.answerAll_agree allOrNothing valid' valid same calls
    exact ⟨hevents, hcontents, allOrNothing'.holdsWhole valid' empty' calls,
      allOrNothing.holdsWhole valid empty calls⟩
  · intro D mux calls fixed growing
    obtain ⟨hreplies, hmux, hcontents⟩ :=
      allOrNothing'.transmitters_agree allOrNothing valid' valid same mux calls
    refine ⟨hreplies, hmux, hcontents, ?_⟩
    intro admitted offers accepted frames
    obtain ⟨hstream, hsequence⟩ :=
      allOrNothing'.contents_transmitter valid' empty' mux admitted
    refine ⟨hstream, hsequence, ?_, ?_⟩
    · intro k frame h
      apply Traffic.sequence_frames offers.start accepted h
    · intro lookup schedule known hschedule
      apply Traffic.answerAll_stream offers.start known (hschedule.trans hstream)

/-- Of two messages the first does not fit, and the second does. -/
theorem sinks_hold_whole_frames_linkTest :
  let test (n : UInt32) : flight.Message := ⟨.linkTest, ⟨n, Single.zero⟩⟩
  let subscribed := (({} : Hub flight.Message).openChannel.2.subscribe ⟨0⟩ 4 (by decide)).2
  let hub := (subscribed.send ⟨0⟩ (test 0x01020304)).send ⟨0⟩ (test 7)
  let outlet : Outlet := ⟨⟨0⟩, ⟨1⟩, ⟨1⟩⟩
  let calls : List (TransmitterCall flight) := [.add outlet, .flush hub]
  let store : List UInt8 := List.replicate 13 0xaa
  let fixed := Transmitter.answerAll ⟨{}, FixedSink.mk store 0⟩ calls
  let growing := Transmitter.answerAll ⟨{}, BoundedSink.mk 13 []⟩ calls
  let lookup := Lookup.ofList [LinkTest.format.descriptor]
  AllOrNothing BoundedSink 13 (BoundedSink.Fits 13) ∧
    BoundedSink.Fits 13 (BoundedSink.mk 13 []) ∧ store.length = 13 ∧
    TransmitterCall.AllAdmitted [] calls ∧ fixed.1 = growing.1 ∧
    StoringSink.contents fixed.2.sink = StoringSink.contents growing.2.sink ∧
    StoringSink.contents fixed.2.sink = Traffic.stream 0 [(outlet, test 7)] ∧
    Deframer.answerAll lookup [.pushAll (StoringSink.contents fixed.2.sink)] {} =
      ([.frame (Traffic.frame 0 outlet (test 7))], ⟨[], { frames := 1 }⟩)
  := by
  intro test subscribed hub outlet calls store fixed growing lookup
  have reachable : hub.Reachable := by
    apply Hub.Reachable.sendCopies
    apply Hub.Reachable.sendCopies
    apply Hub.Reachable.subscribe
    apply Hub.Reachable.openChannel
    apply Hub.Reachable.empty
  have admitted : TransmitterCall.AllAdmitted [] calls :=
    ⟨trivial, ⟨reachable, List.pairwise_singleton _ _⟩, trivial⟩
  have allOrNothing := BoundedSink.allOrNothing 13
  have valid : BoundedSink.Fits 13 (BoundedSink.mk 13 []) := ⟨rfl, Nat.zero_le 13⟩
  have hstore : store.length = 13 := rfl
  have hoffered : (Offers.answerAll 13 (⟨[], 0, []⟩ : Offers flight) calls).offered =
      [(outlet, test 0x01020304), (outlet, test 7)] := by
    simp only [calls, hub, subscribed, test, outlet]
    rfl
  have hlong : 13 < Traffic.size (outlet, test 0x01020304) := by decide +kernel
  have hshort : Traffic.size (outlet, test 7) ≤ 13 := by decide +kernel
  have haccepted : Traffic.fitting 13 (Offers.answerAll 13
      (⟨[], 0, []⟩ : Offers flight) calls).offered = [(outlet, test 7)] := by
    rw [hoffered, Traffic.fitting_cons_of_lt _ hlong, Traffic.fitting_cons_of_le _ hshort]
    rfl
  obtain ⟨hreplies, -, hcontents, htransmitter⟩ :=
    (sinks_hold_whole_frames allOrNothing valid rfl hstore).2 flight {} calls
  obtain ⟨hstream, -, -, hparsed⟩ := htransmitter admitted
  have hschedule : DeframerCall.stream [.pushAll (StoringSink.contents fixed.2.sink)] =
      StoringSink.contents fixed.2.sink := List.append_nil _
  have known : Traffic.Known lookup (Traffic.fitting 13 (Offers.answerAll 13
      (⟨[], 0, []⟩ : Offers flight) calls).offered) := by
    rw [haccepted]
    intro entry hmem
    rw [List.mem_singleton.mp hmem]
    rfl
  have hframes := hparsed lookup _ known hschedule
  rw [haccepted] at hstream hframes
  exact ⟨allOrNothing, valid, hstore, admitted, hreplies, hcontents, hstream, hframes⟩

end FlightBus

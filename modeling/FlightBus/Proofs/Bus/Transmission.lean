import FlightBus.Bus.Multiplexer
import FlightBus.Proofs.Bus.Hub
import FlightBus.Proofs.Frame.Wire

/-!
# What a multiplexer transmits

A multiplexer that works on a sink that takes everything writes the messages that wait for
its receivers, one frame behind the other.  A search that knows the message types finds
these frames and nothing else, and is left without bytes.
-/

namespace FlightBus

variable {D : Dialect}

/-- Messages in the order in which they are transmitted, each with its outlet. -/
abbrev Traffic (D : Dialect) := List (Outlet × D.Message)

namespace Traffic

/-- The frame of a message. -/
def frame (sequence : UInt8) (outlet : Outlet) (message : D.Message) : Frame :=
  (D.format message.1).frame message.2 outlet.system outlet.component sequence

/-- The frames of messages, of which the first has the given sequence number. -/
def frames : UInt8 → Traffic D → List Frame
  | _, [] => []
  | sequence, (outlet, message) :: traffic =>
      frame sequence outlet message :: frames (sequence + 1) traffic

/-- The bytes of the frames of messages. -/
def stream : UInt8 → Traffic D → List UInt8
  | _, [] => []
  | sequence, (outlet, message) :: traffic =>
      (frame sequence outlet message).wire (D.format message.1).crcExtra ++
        stream (sequence + 1) traffic

/-- Every message type is known to a lookup by its descriptor. -/
def Known (lookup : Lookup) (traffic : Traffic D) : Prop :=
  ∀ entry ∈ traffic, lookup (D.format entry.2.1).id = some (D.format entry.2.1).descriptor

theorem length_frames (sequence : UInt8) (traffic : Traffic D) :
  (frames sequence traffic).length = traffic.length
  := by
  induction traffic generalizing sequence with
  | nil => rfl
  | cons entry traffic ih => rw [frames, List.length_cons, ih, List.length_cons]

/-- The frames of messages may be written in two parts, the second from the sequence number that
the first leaves. -/
theorem stream_append (sequence : UInt8) (traffic others : Traffic D) :
  stream sequence (traffic ++ others) =
    stream sequence traffic ++ stream (sequence + UInt8.ofNat traffic.length) others
  := by
  induction traffic generalizing sequence with
  | nil =>
      change _ = stream (sequence + 0) others
      rw [UInt8.add_zero]
      rfl
  | cons entry traffic ih =>
      rw [List.cons_append, stream, stream, ih, List.append_assoc, List.length_cons,
        Nat.add_comm traffic.length 1, UInt8.ofNat_add, UInt8.add_assoc]
      rfl

/-- A search finds the frames of messages whose types it knows. -/
theorem drain_stream {lookup : Lookup} {traffic : Traffic D} (sequence : UInt8)
    (known : Known lookup traffic) :
  drain lookup (stream sequence traffic) =
    ((frames sequence traffic).map Finding.frame, [])
  := by
  induction traffic generalizing sequence with
  | nil => apply Stuck.nil.drain_eq
  | cons entry traffic ih =>
      obtain ⟨outlet, message⟩ := entry
      obtain ⟨hknown, hothers⟩ := List.forall_mem_cons.mp known
      have admissible := (D.format message.1).admissible_frame hknown message.2 outlet.system
        outlet.component sequence
      have hstep := admissible.step (stream (sequence + 1) traffic)
      rw [Format.received_frame] at hstep
      rw [stream, frame, hstep.drain_eq, ih (sequence + 1) hothers]
      rfl

end Traffic

namespace Multiplexer

/-- The messages that wait for the receivers of a multiplexer: receiver by receiver in the
order in which they were added, and the oldest message of a receiver first. -/
def pending (mux : Multiplexer) (hub : Hub D.Message) : Traffic D :=
  mux.outlets.flatMap (fun outlet => (hub.waiting outlet.receiver).map (fun m => (outlet, m)))

/-! ### Writing what waits -/

section Flush

variable {σ : Type} [ByteSink σ]

/-- Writes messages into the sink, each as one of its outlet. -/
def emitAll (state : Emission σ) (traffic : Traffic D) : Emission σ :=
  traffic.foldl (fun state entry => emit entry.1 state entry.2) state

theorem emitAll_append (state : Emission σ) (traffic others : Traffic D) :
  emitAll state (traffic ++ others) = emitAll (emitAll state traffic) others
  := List.foldl_append

theorem emitAll_cons (state : Emission σ) (entry : Outlet × D.Message) (traffic : Traffic D) :
  emitAll state (entry :: traffic) = emitAll (emit entry.1 state entry.2) traffic
  := List.foldl_cons

/-- Going through outlets with different receivers writes the messages that wait for them. -/
theorem foldl_flushOutlet {outlets : List Outlet} {hub : Hub D.Message} (sound : hub.Sound)
    (distinct : outlets.Pairwise (fun outlet other => outlet.receiver ≠ other.receiver))
    (state : Emission σ) :
  (outlets.foldl (fun (hub, state) outlet => flushOutlet hub state outlet) (hub, state)).2 =
    emitAll state (outlets.flatMap
      (fun outlet => (hub.waiting outlet.receiver).map (fun m => (outlet, m))))
  := by
  induction outlets generalizing hub state with
  | nil => rfl
  | cons outlet outlets ih =>
      obtain ⟨hother, hrest⟩ := List.pairwise_cons.mp distinct
      obtain ⟨hmessages, hsound, hwaiting⟩ := sound.takeAll outlet.receiver
      have hsame : outlets.flatMap (fun other =>
          ((hub.takeAll outlet.receiver).2.waiting other.receiver).map (fun m => (other, m))) =
          outlets.flatMap (fun other =>
            (hub.waiting other.receiver).map (fun m => (other, m))) := by
        rw [List.flatMap_def, List.flatMap_def]
        apply congrArg List.flatten
        apply List.map_congr_left
        intro other hmem
        rw [hwaiting, if_neg (hother other hmem)]
      have hothers := ih hsound hrest
        ((hub.takeAll outlet.receiver).1.foldl (emit outlet) state)
      have hfirst : (hub.takeAll outlet.receiver).1.foldl (emit outlet) state =
          emitAll state ((hub.takeAll outlet.receiver).1.map (fun m => (outlet, m))) := by
        rw [emitAll, List.foldl_map]
      rw [hsame] at hothers
      rw [List.flatMap_cons, emitAll_append, ← hmessages, ← hfirst]
      apply hothers

/-- Going through outlets takes all messages of their receivers, and of no others. -/
theorem waiting_foldl_flushOutlet {hub : Hub D.Message} (sound : hub.Sound)
    (outlets : List Outlet) (state : Emission σ) (r : ReceiverId) :
  (outlets.foldl (fun (hub, state) outlet => flushOutlet hub state outlet)
      (hub, state)).1.waiting r =
    if ∃ outlet ∈ outlets, outlet.receiver = r then [] else hub.waiting r
  := by
  induction outlets generalizing hub state with
  | nil => simp
  | cons outlet outlets ih =>
      obtain ⟨-, hsound, hwaiting⟩ := sound.takeAll outlet.receiver
      have hothers := ih hsound ((hub.takeAll outlet.receiver).1.foldl (emit outlet) state)
      apply hothers.trans
      rw [hwaiting]
      by_cases hrest : ∃ other ∈ outlets, other.receiver = r
      · rw [if_pos hrest, if_pos]
        obtain ⟨other, hmem, hreceiver⟩ := hrest
        exact ⟨other, List.mem_cons_of_mem outlet hmem, hreceiver⟩
      · simp [hrest]

/-- Flushing a multiplexer with different receivers writes the messages that wait for
them. -/
theorem flush_eq_emitAll {mux : Multiplexer} {hub : Hub D.Message} (sound : hub.Sound)
    (distinct :
      mux.outlets.Pairwise (fun outlet other => outlet.receiver ≠ other.receiver))
    (sink : σ) :
  (mux.flush hub sink).2 = emitAll { mux, sink } (mux.pending hub)
  := foldl_flushOutlet sound distinct { mux, sink }

end Flush

/-! ### Sinks that take everything -/

/-- From one state of a multiplexer at work to another, messages were transmitted: their
frames were written behind what was in the sink, and the sequence number went on. -/
structure Transmits (before after : Emission GrowableSink) (traffic : Traffic D) : Prop where
  contents_eq : after.sink.contents =
    before.sink.contents ++ Traffic.stream before.mux.sequence traffic
  sequence_eq : after.mux.sequence = before.mux.sequence + UInt8.ofNat traffic.length

namespace Transmits

variable {before middle after : Emission GrowableSink} {traffic others : Traffic D}

theorem nil :
  Transmits before before ([] : Traffic D)
  := by
  constructor
  · symm
    apply List.append_nil
  · symm
    apply UInt8.add_zero

/-- What was transmitted one after the other was transmitted together. -/
theorem append (first : Transmits before middle traffic)
    (second : Transmits middle after others) :
  Transmits before after (traffic ++ others)
  := by
  constructor
  · rw [second.contents_eq, first.contents_eq, first.sequence_eq, Traffic.stream_append,
      List.append_assoc]
  · rw [second.sequence_eq, first.sequence_eq, List.length_append, UInt8.ofNat_add,
      UInt8.add_assoc]

end Transmits

/-- A sink that takes everything takes the frame of a message. -/
theorem transmits_emit (outlet : Outlet) (state : Emission GrowableSink)
    (message : D.Message) :
  Transmits state (emit outlet state message) [(outlet, message)]
  := by
  constructor
  · change state.sink.contents ++ Encoded.bytes _ = _
    rw [Format.bytes_encode]
    change _ = _ ++ (_ ++ [])
    rw [List.append_nil]
    rfl
  · rfl

theorem transmits_emitAll (state : Emission GrowableSink) (traffic : Traffic D) :
  Transmits state (emitAll state traffic) traffic
  := by
  induction traffic generalizing state with
  | nil => apply Transmits.nil
  | cons entry traffic ih =>
      apply (transmits_emit entry.1 state entry.2).append (ih _)

/-- A sink that takes everything refuses nothing. -/
theorem refused_emitAll (state : Emission GrowableSink) (traffic : Traffic D) :
  (emitAll state traffic).mux.refused = state.mux.refused
  := by
  induction traffic generalizing state with
  | nil => rfl
  | cons entry traffic ih => apply ih (emit entry.1 state entry.2)

/-- Flushing a multiplexer with different receivers into a sink that takes everything writes
the frames of the messages that wait for the receivers. -/
theorem contents_flush {mux : Multiplexer} {hub : Hub D.Message} (sound : hub.Sound)
    (distinct :
      mux.outlets.Pairwise (fun outlet other => outlet.receiver ≠ other.receiver))
    (sink : GrowableSink) :
  (mux.flush hub sink).2.sink.contents =
    sink.contents ++ Traffic.stream mux.sequence (mux.pending hub)
  := by
  rw [flush_eq_emitAll sound distinct]
  apply (transmits_emitAll { mux, sink } (mux.pending hub)).contents_eq

end Multiplexer

end FlightBus

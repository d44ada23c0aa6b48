import FlightBus.Control.Scheduler
import FlightBus.Proofs.Bus.Accounting
import FlightBus.Proofs.Bus.Fitting
import FlightBus.Proofs.Frame.Reencoding

/-!
# Counters of 32 bits

Deframers, demultiplexers and multiplexers count events of several classes, one by one, in
counters of 32 bits that start again at zero when they are exceeded.  So what a counter says
is right as long as there are fewer events of its class than a counter can tell apart, and no
longer: `CountingMachine.sound_iff` says so of everything that counts in this way.  The
counter of a scheduler stays at the largest number instead, and never gets smaller.
-/

namespace FlightBus

universe u v

/-! ### Counting events -/

/-- A counter for each class of events. -/
abbrev Counters (ι : Type) := ι → UInt32

namespace Counters

variable {ι : Type} [DecidableEq ι]

/-- Counts an event. -/
def count (counters : Counters ι) (event : ι) : Counters ι :=
  fun c => counters c + if event = c then 1 else 0

/-- Counts events, in order. -/
def countAll (counters : Counters ι) (events : List ι) : Counters ι :=
  events.foldl count counters

/-- No counter is at its largest number when an event of its class is counted. -/
def NeverOverflows : Counters ι → List ι → Prop
  | _, [] => True
  | counters, event :: events =>
      (counters event).toNat + 1 < UInt32.size ∧ NeverOverflows (counters.count event) events

theorem countAll_append (counters : Counters ι) (events others : List ι) :
  counters.countAll (events ++ others) = (counters.countAll events).countAll others
  := List.foldl_append

theorem countAll_apply (counters : Counters ι) (events : List ι) (c : ι) :
  counters.countAll events c = counters c + UInt32.ofNat (events.count c)
  := by
  induction events generalizing counters with
  | nil =>
      symm
      apply UInt32.add_zero
  | cons event events ih =>
      rw [countAll, List.foldl_cons, ← countAll, ih, count, List.count_cons, Nat.add_comm,
        UInt32.ofNat_add, ← UInt32.add_assoc]
      by_cases hevent : event = c
      · simp [hevent]
      · simp [hevent]

theorem count_inl {κ : Type} [DecidableEq κ] (counters : Counters ι) (others : Counters κ)
    (event : ι) :
  count (Sum.elim counters others) (.inl event) = Sum.elim (counters.count event) others
  := by
  funext c
  cases c with
  | inl c => simp [count]
  | inr c => simp [count]

theorem count_inr {κ : Type} [DecidableEq κ] (counters : Counters ι) (others : Counters κ)
    (event : κ) :
  count (Sum.elim counters others) (.inr event) = Sum.elim counters (others.count event)
  := by
  funext c
  cases c with
  | inl c => simp [count]
  | inr c => simp [count]

/-- What a counter says after events, if this is in range. -/
theorem toNat_countAll {counters : Counters ι} {events : List ι} {c : ι}
    (h : (counters c).toNat + events.count c < UInt32.size) :
  (counters.countAll events c).toNat = (counters c).toNat + events.count c
  := by
  have hevents : (UInt32.ofNat (events.count c)).toNat = events.count c := by
    apply UInt32.toNat_ofNat_of_lt'
    omega
  rw [countAll_apply, UInt32.toNat_add, hevents]
  apply Nat.mod_eq_of_lt h

theorem le_countAll {counters : Counters ι} {events : List ι} {c : ι}
    (h : (counters c).toNat + events.count c < UInt32.size) :
  counters c ≤ counters.countAll events c
  := by
  rw [UInt32.le_iff_toNat_le, toNat_countAll h]
  apply Nat.le_add_right

theorem neverOverflows_append (counters : Counters ι) (events others : List ι) :
  counters.NeverOverflows (events ++ others) ↔
    counters.NeverOverflows events ∧ (counters.countAll events).NeverOverflows others
  := by
  induction events generalizing counters with
  | nil => simp only [List.nil_append, NeverOverflows, true_and, countAll, List.foldl_nil]
  | cons event events ih =>
      rw [List.cons_append, NeverOverflows, NeverOverflows, ih, and_assoc]
      rfl

/-- A counter that does not get smaller when it is counted up did not start again. -/
theorem toNat_add_one_of_le {counter : UInt32} (h : counter ≤ counter + 1) :
  (counter + 1).toNat = counter.toNat + 1
  := by
  rw [UInt32.le_iff_toNat_le, UInt32.toNat_add] at h
  rw [UInt32.toNat_add]
  have hone : (1 : UInt32).toNat = 1 := rfl
  have hlt := counter.toNat_lt
  omega

/-- No addition overflows if and only if there are not more events of any class than its
counter can tell apart. -/
theorem neverOverflows_iff (counters : Counters ι) (events : List ι) :
  counters.NeverOverflows events ↔
    ∀ c, (counters c).toNat + events.count c < UInt32.size
  := by
  induction events using List.reverseRecOn with
  | nil =>
      constructor
      · intro _ c
        apply UInt32.toNat_lt
      · intro _
        trivial
  | append_singleton events event ih =>
      have hsingle : (counters.countAll events).NeverOverflows [event] ↔
          (counters.countAll events event).toNat + 1 < UInt32.size := by
        simp only [NeverOverflows, and_true]
      rw [neverOverflows_append, ih, hsingle]
      constructor
      · rintro ⟨hevents, hlast⟩ c
        rw [toNat_countAll (hevents event)] at hlast
        rw [List.count_append, List.count_singleton]
        split
        · rename_i hc
          rw [← eq_of_beq hc]
          omega
        · apply hevents c
      · intro h
        have hevents (c : ι) : (counters c).toNat + events.count c < UInt32.size := by
          have hc := h c
          rw [List.count_append] at hc
          omega
        have hevent := h event
        rw [List.count_append, List.count_singleton_self] at hevent
        refine ⟨hevents, ?_⟩
        rw [toNat_countAll (hevents event)]
        omega

end Counters

/-! ### Components that count -/

/-- A component that counts events when it is called. -/
structure CountingMachine (S : Type u) (Call : Type v) (ι : Type) [DecidableEq ι] where
  /-- The counters. -/
  counters : S → Counters ι
  /-- The classes of the events of a call, in the order in which they are counted. -/
  events : S → Call → List ι
  /-- The component after a call. -/
  after : S → Call → S
  /-- Every event of a call is counted, and counted once. -/
  counters_after : ∀ s call, counters (after s call) = (counters s).countAll (events s call)

namespace CountingMachine

variable {S : Type u} {Call : Type v} {ι : Type} [DecidableEq ι]
  (machine : CountingMachine S Call ι)

/-- The events of calls, in order. -/
def eventsAll (s : S) : List Call → List ι
  | [] => []
  | call :: calls => machine.events s call ++ eventsAll (machine.after s call) calls

/-- The number of events of a class during calls. -/
def total (s : S) (calls : List Call) (c : ι) : Nat :=
  (machine.eventsAll s calls).count c

/-- No addition that counts an event of calls overflows. -/
def NeverOverflows (s : S) : List Call → Prop
  | [] => True
  | call :: calls =>
      (machine.counters s).NeverOverflows (machine.events s call) ∧
        NeverOverflows (machine.after s call) calls

/-- No counter is smaller after a call than before it. -/
def NeverFalls (s : S) : List Call → Prop
  | [] => True
  | call :: calls =>
      (∀ c, machine.counters s c ≤ machine.counters (machine.after s call) c) ∧
        NeverFalls (machine.after s call) calls

/-- The additions of calls are those of their events. -/
theorem neverOverflows_iff (s : S) (calls : List Call) :
  machine.NeverOverflows s calls ↔
    (machine.counters s).NeverOverflows (machine.eventsAll s calls)
  := by
  induction calls generalizing s with
  | nil => exact Iff.rfl
  | cons call calls ih =>
      rw [NeverOverflows, eventsAll, Counters.neverOverflows_append, ih,
        machine.counters_after]

theorem neverFalls_of_neverOverflows {s : S} {calls : List Call}
    (h : machine.NeverOverflows s calls) :
  machine.NeverFalls s calls
  := by
  induction calls generalizing s with
  | nil => trivial
  | cons call calls ih =>
      obtain ⟨hcall, hcalls⟩ := h
      refine ⟨?_, ih hcalls⟩
      intro c
      rw [machine.counters_after]
      apply Counters.le_countAll
      apply (Counters.neverOverflows_iff _ _).mp hcall

/-- No addition overflows and no counter gets smaller if and only if there are not more events
of any class than its counter can tell apart. -/
theorem sound_iff (s : S) (calls : List Call) :
  machine.NeverOverflows s calls ∧ machine.NeverFalls s calls ↔
    ∀ c, (machine.counters s c).toNat + machine.total s calls c < UInt32.size
  := by
  have hoverflow := machine.neverOverflows_iff s calls
  rw [Counters.neverOverflows_iff] at hoverflow
  constructor
  · intro h
    apply hoverflow.mp h.1
  · intro h
    have hnever := hoverflow.mpr h
    exact ⟨hnever, machine.neverFalls_of_neverOverflows hnever⟩

/-- In some states, which it does not leave thereby, a component counts a single event of a
class whenever it is called in a certain way. -/
structure Repeats (P : S → Prop) (call : Call) (event : ι) : Prop where
  events_eq : ∀ {s}, P s → machine.events s call = [event]
  after : ∀ {s}, P s → P (machine.after s call)

/-- When the same event is counted over and over, its counter starts again at zero. -/
theorem Repeats.not_neverFalls {machine : CountingMachine S Call ι} {P : S → Prop}
    {call : Call} {event : ι} (repeats : machine.Repeats P call event) {s : S} (hs : P s)
    {n : Nat} (h : UInt32.size ≤ (machine.counters s event).toNat + n) :
  ¬ machine.NeverFalls s (List.replicate n call)
  := by
  induction n generalizing s with
  | zero =>
      have hlt := (machine.counters s event).toNat_lt_size
      intro _
      omega
  | succ n ih =>
      rintro ⟨hfirst, hothers⟩
      have hafter : machine.counters (machine.after s call) event =
          machine.counters s event + 1 := by
        rw [machine.counters_after, repeats.events_eq hs, Counters.countAll_apply,
          List.count_singleton_self]
        rfl
      apply ih (repeats.after hs) ?_ hothers
      have hle := hfirst event
      rw [hafter] at hle ⊢
      rw [Counters.toNat_add_one_of_le hle]
      omega

end CountingMachine

/-! ### Deframers -/

namespace FindingCounts

theorem get_add_eq (counts : FindingCounts) (finding : Finding) :
  (counts.add finding).get = Counters.count counts.get finding.class
  := by
  funext c
  apply get_add

theorem get_addAll (counts : FindingCounts) (findings : List Finding) :
  (counts.addAll findings).get = Counters.countAll counts.get (findings.map Finding.class)
  := by
  induction findings generalizing counts with
  | nil => rfl
  | cons finding findings ih =>
      rw [addAll, List.foldl_cons, ← addAll, ih, get_add_eq]
      rfl

end FindingCounts

theorem Deframer.counts_serve (deframer : Deframer) (request : DeframerRequest) :
  (deframer.serve request).2.counts = deframer.counts.addAll (deframer.serve request).1
  := by
  cases request with
  | call lookup call => apply counts_answer
  | reset => rfl

/-- A deframer counts its findings. -/
def Deframer.counting : CountingMachine Deframer DeframerRequest FindingClass where
  counters deframer := deframer.counts.get
  events deframer request := (deframer.serve request).1.map Finding.class
  after deframer request := (deframer.serve request).2
  counters_after deframer request := by
    rw [counts_serve, FindingCounts.get_addAll]

/-- Markers of the second version, one fewer than a header has bytes. -/
def Deframer.markers : List UInt8 :=
  List.replicate 9 0xfd

theorem stuck_markers (lookup : Lookup) :
  Stuck lookup Deframer.markers
  := by
  have marker : Version.ofMarker? 0xfd = some .v2 := rfl
  apply Stuck.incomplete marker
  rfl

/-- With one more marker the flags of the first candidate are there, and are not supported. -/
theorem drain_markers (lookup : Lookup) :
  drain lookup (Deframer.markers ++ [0xfd]) =
    ([.rejected (.unsupportedFlags 0xfd)], Deframer.markers)
  := by
  have marker : Version.ofMarker? 0xfd = some .v2 := rfl
  have step : SearchStep lookup (Deframer.markers ++ [0xfd])
      (some (.rejected (.unsupportedFlags 0xfd))) Deframer.markers :=
    .rejected marker rfl
  rw [step.drain_eq, (stuck_markers lookup).drain_eq]
  rfl

namespace Deframer

theorem pushAll_marker (lookup : Lookup) {deframer : Deframer}
    (h : deframer.window = markers) :
  (deframer.pushAll lookup [0xfd]).1 = [.rejected (.unsupportedFlags 0xfd)] ∧
    (deframer.pushAll lookup [0xfd]).2.window = markers
  := by
  have stuck : Stuck lookup deframer.window := by
    rw [h]
    apply stuck_markers
  rw [pushAll_eq_drain [0xfd] stuck, h, drain_markers]
  exact ⟨rfl, rfl⟩

/-- The markers are kept, since they may start a frame. -/
theorem window_pushAll_markers (lookup : Lookup) {deframer : Deframer}
    (h : deframer.window = []) :
  (deframer.pushAll lookup markers).2.window = markers
  := by
  have stuck : Stuck lookup deframer.window := by
    rw [h]
    apply Stuck.nil
  rw [pushAll_eq_drain markers stuck, h, List.nil_append, (stuck_markers lookup).drain_eq]

/-- After markers, a deframer rejects a candidate with every further marker. -/
theorem repeats_marker (lookup : Lookup) :
  counting.Repeats (fun deframer => deframer.window = markers)
    (.call lookup (.pushAll [0xfd])) .malformed
  where
  events_eq {deframer} h := by
    change (deframer.pushAll lookup [0xfd]).1.map Finding.class = _
    rw [(pushAll_marker lookup h).1]
    rfl
  after h := (pushAll_marker lookup h).2

end Deframer

/-! ### Demultiplexers -/

namespace Demultiplexer

variable {D : Dialect}

/-- The classes in which a finding is counted: by the deframer, and, if it is a frame, by what
becomes of it. -/
def classes (demux : Demultiplexer D) : Finding → List (FindingClass ⊕ RoutingClass)
  | .rejected cause => [.inl (Finding.rejected cause).class]
  | .frame frame => [.inl .frame, .inr (demux.outcome frame).class]

/-- The counters of a deframer and of a demultiplexer. -/
def jointCounters (counts : FindingCounts) (routing : RoutingCounts) :
    Counters (FindingClass ⊕ RoutingClass) :=
  Sum.elim counts.get routing.get

theorem get_countOutcome_eq (routing : RoutingCounts) (outcome : Outcome D) :
  (countOutcome routing outcome).get = Counters.count routing.get outcome.class
  := by
  funext c
  apply get_countOutcome

theorem jointCounters_add (demux : Demultiplexer D) (finding : Finding)
    (counts : FindingCounts) (routing : RoutingCounts) :
  jointCounters (counts.add finding) (demux.countFinding routing finding) =
    (jointCounters counts routing).countAll (demux.classes finding)
  := by
  cases finding with
  | rejected cause =>
      rw [jointCounters, FindingCounts.get_add_eq, ← Counters.count_inl]
      rfl
  | frame frame =>
      rw [jointCounters, countFinding, FindingCounts.get_add_eq, get_countOutcome_eq,
        ← Counters.count_inr, ← Counters.count_inl]
      rfl

theorem jointCounters_addAll (demux : Demultiplexer D) (findings : List Finding)
    (counts : FindingCounts) (routing : RoutingCounts) :
  jointCounters (counts.addAll findings) (findings.foldl demux.countFinding routing) =
    (jointCounters counts routing).countAll (findings.flatMap demux.classes)
  := by
  induction findings generalizing counts routing with
  | nil => rfl
  | cons finding findings ih =>
      rw [List.flatMap_cons, Counters.countAll_append, ← jointCounters_add, ← ih]
      rfl

/-- A demultiplexer counts the findings of its deframer, and what becomes of its frames. -/
def counting : CountingMachine (Demultiplexer D) (DemultiplexerCall D)
    (FindingClass ⊕ RoutingClass) where
  counters demux := jointCounters demux.deframer.counts demux.counts
  events demux call :=
    (demux.deframer.pushAll demux.known.find? call.bytes).1.flatMap demux.classes
  after demux call := (demux.answer call).2
  counters_after demux call := by
    cases call with
    | bind kind system component channel =>
        obtain ⟨-, hcounts, hdeframer, -⟩ := demux.answer_bind kind system component channel
        rw [hcounts, hdeframer]
        rfl
    | consume reads =>
        rw [answer, consumeReads_eq, consumeBytes_eq, ← jointCounters_addAll,
          ← Deframer.counts_pushAll]
        rfl

theorem deframer_answer_consume (demux : Demultiplexer D) (reads : List (List UInt8)) :
  (demux.answer (.consume reads)).2.deframer =
    (demux.deframer.pushAll demux.known.find? reads.flatten).2
  := by
  rw [answer, consumeReads_eq, consumeBytes_eq]

/-- After markers, a demultiplexer rejects a candidate with every further marker. -/
theorem repeats_marker :
  counting.Repeats (fun demux : Demultiplexer D => demux.deframer.window = Deframer.markers)
    (.consume [[0xfd]]) (.inl .malformed)
  where
  events_eq {demux} h := by
    change (demux.deframer.pushAll demux.known.find? [0xfd]).1.flatMap demux.classes = _
    rw [(Deframer.pushAll_marker _ h).1]
    rfl
  after {demux} h := by
    change (demux.answer (.consume [[0xfd]])).2.deframer.window = _
    rw [deframer_answer_consume]
    apply (Deframer.pushAll_marker _ h).2

end Demultiplexer

/-! ### Multiplexers -/

theorem Attempt.refused_eq_count (attempts : List Attempt) :
  refused attempts = (attempts.map Attempt.isTaken).count false
  := by
  rw [refused, List.count, List.countP_map]
  apply List.countP_congr
  intro attempt _
  simp

namespace Multiplexer

variable {D : Dialect}

/-- Flushing receivers writes some messages, which do not depend on the sink. -/
theorem exists_flushOutlets_eq_emitAll (outlets : List Outlet) (hub : Hub D.Message) :
  ∃ traffic : Traffic D, ∀ (σ : Type) [ByteSink σ] (state : Emission σ),
    (outlets.foldl (fun (hub, state) outlet => flushOutlet hub state outlet)
      (hub, state)).2 = emitAll state traffic
  := by
  induction outlets generalizing hub with
  | nil => exact ⟨[], fun _ _ _ => rfl⟩
  | cons outlet outlets ih =>
      obtain ⟨others, hothers⟩ := ih (hub.takeAll outlet.receiver).2
      use (hub.takeAll outlet.receiver).1.map (fun m => (outlet, m)) ++ others
      intro σ _ state
      rw [emitAll_append, ← hothers, emitAll, List.foldl_map]
      rfl

/-- The counters of frames that were taken and of frames that were refused. -/
def counters (mux : Multiplexer) : Counters Bool
  | true => mux.frames
  | false => mux.refused

theorem Counts.counters_eq {before after : Multiplexer} {traffic : Traffic D}
    {attempts : List Attempt} (counts : Counts before after traffic attempts) :
  after.counters = before.counters.countAll (attempts.map Attempt.isTaken)
  := by
  funext c
  rw [Counters.countAll_apply]
  cases c with
  | true =>
      rw [← Attempt.taken_eq_count]
      apply counts.frames_eq
  | false =>
      rw [← Attempt.refused_eq_count]
      apply counts.refused_eq

/-- Whatever the hub and the sink, the writes of a flush are counted. -/
theorem counters_flush (mux : Multiplexer) (hub : Hub D.Message) {σ : Type} [ByteSink σ]
    (sink : σ) :
  (mux.flush hub sink).2.mux.counters =
    mux.counters.countAll ((mux.attempts hub sink).map Attempt.isTaken)
  := by
  obtain ⟨traffic, hflush⟩ := exists_flushOutlets_eq_emitAll mux.outlets hub
  let recording : Emission (Recorder σ) := { mux, sink := ⟨sink, []⟩ }
  obtain ⟨attempts, hkept, counts⟩ := counts_emitAll recording traffic
  have hattempts : mux.attempts hub sink = attempts := by
    rw [Multiplexer.attempts, flush, hflush]
    apply hkept
  have hbare : (mux.flush hub sink).2 = bare (emitAll recording traffic) := by
    rw [flush, hflush, bare_emitAll]
    rfl
  rw [hbare, hattempts]
  apply counts.counters_eq

/-- A multiplexer counts the writes that are taken and those that are refused. -/
def counting : CountingMachine Multiplexer (MultiplexerCall D) Bool where
  counters := counters
  events mux call := (mux.answer call).1.map Attempt.isTaken
  after mux call := (mux.answer call).2
  counters_after mux call := by
    cases call with
    | add outlet => rfl
    | flush hub kind sink => apply counters_flush

/-- A multiplexer with a single receiver for which a single message waits. -/
theorem flush_single {mux : Multiplexer} {hub : Hub D.Message} {outlet : Outlet}
    {message : D.Message} (houtlets : mux.outlets = [outlet])
    (hwaiting : (hub.takeAll outlet.receiver).1 = [message]) {σ : Type} [ByteSink σ]
    (sink : σ) :
  (mux.flush hub sink).2 = emit outlet { mux, sink } message
  := by
  rw [flush, houtlets]
  change (hub.takeAll outlet.receiver).1.foldl (emit outlet) _ = _
  rw [hwaiting]
  rfl

/-- A sink without room refuses every frame. -/
theorem attempts_emit_full (mux : Multiplexer) (outlet : Outlet) (message : D.Message) :
  let full : Recorder FixedSink := ⟨FixedSink.ofCapacity 0, []⟩
  (emit outlet { mux, sink := full } message).sink.attempts.map Attempt.isTaken = [false]
  := by
  intro full
  have hpositive : 0 < (Traffic.stream mux.sequence [(outlet, message)]).length := by
    rw [Traffic.length_stream, Traffic.totalSize_singleton]
    apply Nat.add_pos_right
    decide
  have hrefused : (FixedSink.ofCapacity 0).write?
      (Traffic.stream mux.sequence [(outlet, message)]) = none := by
    simp only [FixedSink.write?]
    apply if_pos
    apply Nat.lt_add_left 0 hpositive
  have hwrite : ByteSink.write? full (Traffic.stream mux.sequence [(outlet, message)]) =
      none := by
    change ((FixedSink.ofCapacity 0).write? _).map _ = none
    rw [hrefused]
    rfl
  have hbytes := bytes_encode_stream mux.sequence (outlet, message) mux.packet
  simp only [emit, hbytes, hwrite]
  rfl

/-- When a sink has no room, a message that waits is refused at every flush. -/
theorem repeats_refusal {hub : Hub D.Message} {outlet : Outlet} {message : D.Message}
    (hwaiting : (hub.takeAll outlet.receiver).1 = [message]) :
  counting.Repeats (fun mux => mux.outlets = [outlet])
    (.flush hub inferInstance (FixedSink.ofCapacity 0)) false
  where
  events_eq {mux} houtlets := by
    change (mux.attempts hub (FixedSink.ofCapacity 0)).map Attempt.isTaken = [false]
    rw [attempts, flush_single houtlets hwaiting, attempts_emit_full]
  after {mux} houtlets := by
    change (mux.flush hub (FixedSink.ofCapacity 0)).2.mux.outlets = [outlet]
    have hemitted := outlets_emitAll ⟨mux, FixedSink.ofCapacity 0, []⟩ [(outlet, message)]
    rw [emitAll, List.foldl_cons, List.foldl_nil] at hemitted
    rw [flush_single houtlets hwaiting, hemitted, houtlets]

end Multiplexer

/-! ### Schedulers -/

theorem le_saturatingAdd (a b : UInt32) :
  a ≤ saturatingAdd a b
  := by
  rw [UInt32.le_iff_toNat_le, toNat_saturatingAdd]
  apply Nat.le_min.mpr
  constructor
  · apply Nat.le_of_lt_succ a.toNat_lt
  · apply Nat.le_add_right

/-- The failures of a pass never make the number of failures smaller. -/
theorem Scheduler.failures_le_run {ν σ : Type} [Node ν σ] (scheduler : Scheduler ν)
    (world : σ) :
  scheduler.failures ≤ (scheduler.run world).2.failures
  := by
  apply le_saturatingAdd

/-! ### Every counter -/

/-- Over any run of a deframer, a demultiplexer or a multiplexer, no addition that counts an
event overflows and no counter gets smaller at a call if and only if there are not more events
of any class than its counter can tell apart.  The counter of a scheduler gets smaller in no
pass at all. -/
theorem counters_sound_iff {D : Dialect} {ν σ : Type} [Node ν σ] (deframer : Deframer)
    (requests : List DeframerRequest) (demux : Demultiplexer D)
    (calls : List (DemultiplexerCall D)) (mux : Multiplexer)
    (flushes : List (MultiplexerCall D)) (scheduler : Scheduler ν) (world : σ) :
  (Deframer.counting.NeverOverflows deframer requests ∧
      Deframer.counting.NeverFalls deframer requests ↔
    ∀ c, (deframer.counts.get c).toNat + Deframer.counting.total deframer requests c <
      UInt32.size) ∧
  (Demultiplexer.counting.NeverOverflows demux calls ∧
      Demultiplexer.counting.NeverFalls demux calls ↔
    (∀ c, (demux.deframer.counts.get c).toNat +
      Demultiplexer.counting.total demux calls (.inl c) < UInt32.size) ∧
    (∀ c, (demux.counts.get c).toNat +
      Demultiplexer.counting.total demux calls (.inr c) < UInt32.size)) ∧
  (Multiplexer.counting.NeverOverflows mux flushes ∧
      Multiplexer.counting.NeverFalls mux flushes ↔
    mux.frames.toNat + Multiplexer.counting.total mux flushes true < UInt32.size ∧
    mux.refused.toNat + Multiplexer.counting.total mux flushes false < UInt32.size) ∧
  scheduler.failures ≤ (scheduler.run world).2.failures
  := by
  refine ⟨?_, ?_, ?_, ?_⟩
  · apply CountingMachine.sound_iff
  · rw [CountingMachine.sound_iff, Sum.forall]
    rfl
  · rw [CountingMachine.sound_iff, Bool.forall_bool, and_comm]
    rfl
  · apply Scheduler.failures_le_run

/-- One marker more than a counter can tell apart, and it starts again at zero, for a deframer
and for a demultiplexer.  So does the counter of a multiplexer, when as many flushes into a
sink without room find a message that waits. -/
theorem not_neverFalls_size :
  let lookup : Lookup := fun _ => none
  let requests : List DeframerRequest :=
    .call lookup (.pushAll Deframer.markers) ::
      List.replicate UInt32.size (.call lookup (.pushAll [0xfd]))
  let reads : List (DemultiplexerCall flight) :=
    .consume [Deframer.markers] :: List.replicate UInt32.size (.consume [[0xfd]])
  let outlet : Outlet := ⟨⟨0⟩, ⟨1⟩, ⟨1⟩⟩
  let test : flight.Message := ⟨.linkTest, ⟨1, Single.zero⟩⟩
  let subscribed := (({} : Hub flight.Message).openChannel.2.subscribe ⟨0⟩ 1 (by decide)).2
  let hub := subscribed.send ⟨0⟩ test
  let flushes : List (MultiplexerCall flight) :=
    .add outlet ::
      List.replicate UInt32.size (.flush hub inferInstance (FixedSink.ofCapacity 0))
  ¬ Deframer.counting.NeverFalls {} requests ∧
    ¬ Demultiplexer.counting.NeverFalls { input := 0 } reads ∧
    ¬ Multiplexer.counting.NeverFalls {} flushes
  := by
  intro lookup requests reads outlet test subscribed hub flushes
  have hwaiting : (hub.takeAll outlet.receiver).1 = [test] := by
    simp only [hub, subscribed, outlet]
    rfl
  refine ⟨?_, ?_, ?_⟩
  · rintro ⟨-, hothers⟩
    have hwindow : (({} : Deframer).pushAll lookup Deframer.markers).2.window =
        Deframer.markers :=
      Deframer.window_pushAll_markers lookup rfl
    apply (Deframer.repeats_marker lookup).not_neverFalls hwindow ?_ hothers
    apply Nat.le_add_left
  · rintro ⟨-, hothers⟩
    have hwindow : (({ input := 0 } : Demultiplexer flight).answer
        (.consume [Deframer.markers])).2.deframer.window = Deframer.markers := by
      rw [Demultiplexer.deframer_answer_consume]
      apply Deframer.window_pushAll_markers _ rfl
    apply Demultiplexer.repeats_marker.not_neverFalls hwindow ?_ hothers
    apply Nat.le_add_left
  · rintro ⟨-, hothers⟩
    have houtlets : (({} : Multiplexer).add outlet).outlets = [outlet] := rfl
    apply (Multiplexer.repeats_refusal hwaiting).not_neverFalls houtlets ?_ hothers
    apply Nat.le_add_left

end FlightBus

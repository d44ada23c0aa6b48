import FlightBus.Proofs.Bus.Queues
import FlightBus.Proofs.Bus.Routing
import Mathlib.Data.List.Basic

/-!
# Accounts of frames

A demultiplexer is asked to bind routing keys and to consume byte sources, in any order.  Each
frame that its deframer finds has one outcome, which the binding of the routing key at that
time decides: there is none, or the frame does not hold a message of its type, or the message
is sent on its channel.  So the deliveries of a run are those of its frames, in the order of
the stream, and the numbers of outcomes add up to the number of frames.

A binding stays as it is once it is there.  So the frames of a routing key are first some that
came before there was a binding, and then those whose messages the binding sends.
-/

namespace FlightBus

variable {D : Dialect}

/-! ### Frames and their bindings -/

/-- The classes of frames that are counted apart. -/
inductive RoutingClass
  | dispatched
  | unbound
  | undecodable
deriving DecidableEq, Repr

/-- The counter of a class. -/
def RoutingCounts.get (counts : RoutingCounts) : RoutingClass → UInt32
  | .dispatched => counts.dispatched
  | .unbound => counts.unbound
  | .undecodable => counts.undecodable

/-- The message that a frame holds for a binding, if it holds one of its type. -/
def Binding.message? (binding : Binding D) (frame : Frame) : Option D.Message :=
  ((D.format binding.kind).decode frame).toOption.map (⟨binding.kind, ·⟩)

/-- A frame that was found, and the binding of its routing key at that time. -/
structure RoutedFrame (D : Dialect) where
  /-- The frame. -/
  frame : Frame
  /-- The binding, if there was one. -/
  binding? : Option (Binding D)

/-- The class of a frame: its routing key was not bound, or it does not hold a message of the
bound type, or it does. -/
def RoutedFrame.class (routed : RoutedFrame D) : RoutingClass :=
  match routed.binding? with
  | none => .unbound
  | some binding =>
    match binding.message? routed.frame with
    | none => .undecodable
    | some _ => .dispatched

namespace RoutedFrame

/-- What is sent for a frame: the message that it holds for the binding, on the channel of the
binding. -/
def delivery? (routed : RoutedFrame D) : Option (ChannelId × D.Message) :=
  routed.binding?.bind fun binding =>
    (binding.message? routed.frame).map (binding.channel, ·)

theorem delivery?_of_some {routed : RoutedFrame D} {binding : Binding D}
    (h : routed.binding? = some binding) :
  routed.delivery? = (binding.message? routed.frame).map (binding.channel, ·)
  := by
  rw [delivery?, h, Option.bind_some]

theorem delivery?_of_none {routed : RoutedFrame D} (h : routed.binding? = none) :
  routed.delivery? = none
  := by
  rw [delivery?, h, Option.bind_none]

/-- Every frame is in one of the classes. -/
theorem countP_class (frames : List (RoutedFrame D)) :
  frames.countP (·.class = RoutingClass.dispatched) +
    frames.countP (·.class = RoutingClass.unbound) +
    frames.countP (·.class = RoutingClass.undecodable) = frames.length
  := by
  induction frames with
  | nil => rfl
  | cons routed frames ih =>
      rw [List.countP_cons, List.countP_cons, List.countP_cons, List.length_cons, ← ih]
      cases routed.class with
      | dispatched => simp; omega
      | unbound => simp; omega
      | undecodable => simp; omega

end RoutedFrame

/-! ### Calls -/

/-- What a demultiplexer can be asked for. -/
inductive DemultiplexerCall (D : Dialect)
  /-- Binds the messages of a type from a component of a system to a channel. -/
  | bind (kind : D.Kind) (system : SystemId) (component : ComponentId) (channel : ChannelId)
  /-- Consumes the reads that a source gives until it is dry. -/
  | consume (reads : List (List UInt8))

/-- The bytes that a call hands over. -/
def DemultiplexerCall.bytes : DemultiplexerCall D → List UInt8
  | bind .. => []
  | consume reads => reads.flatten

namespace Demultiplexer

/-- Answers a call.  It is reported when a routing key cannot be bound. -/
def answer (demux : Demultiplexer D) :
    DemultiplexerCall D → List (Action D) × Demultiplexer D
  | .bind kind system component channel =>
      match demux.bind kind system component channel with
      | .error fault => ([.log (bindRecord fault)], demux)
      | .ok demux => ([], demux)
  | .consume reads => demux.consumeReads reads

/-- Answers calls, in order. -/
def answerAll (demux : Demultiplexer D) :
    List (DemultiplexerCall D) → List (Action D) × Demultiplexer D
  | [] => ([], demux)
  | call :: calls =>
      let (first, demux) := demux.answer call
      let (others, demux) := demux.answerAll calls
      (first ++ others, demux)

/-- A frame with the binding of its routing key. -/
def route (demux : Demultiplexer D) (frame : Frame) : RoutedFrame D :=
  ⟨frame, demux.binding? frame.key⟩

/-- The frames that the deframer finds when it takes bytes. -/
def routed (demux : Demultiplexer D) (bytes : List UInt8) : List (RoutedFrame D) :=
  ((demux.deframer.pushAll demux.known.find? bytes).1.filterMap Finding.frame?).map demux.route

/-- The frames that the deframer finds during calls. -/
def routedAll (demux : Demultiplexer D) : List (DemultiplexerCall D) → List (RoutedFrame D)
  | [] => []
  | call :: calls => demux.routed call.bytes ++ (demux.answer call).2.routedAll calls

/-! ### What happens to a frame -/

theorem delivery?_reaction (demux : Demultiplexer D) (finding : Finding) :
  (demux.reaction finding).delivery? =
    finding.frame?.bind (fun frame => (demux.route frame).delivery?)
  := by
  cases finding with
  | rejected cause => rfl
  | frame frame =>
      change (demux.action frame (demux.outcome frame)).delivery? =
        (demux.route frame).delivery?
      cases hbinding : demux.binding? frame.key with
      | none =>
          rw [RoutedFrame.delivery?_of_none hbinding, outcome, hbinding]
          rfl
      | some binding =>
          rw [RoutedFrame.delivery?_of_some hbinding, outcome, hbinding, Binding.message?,
            route]
          dsimp only
          cases (D.format binding.kind).decode frame with
          | error reason => rfl
          | ok value => rfl

/-- The class of what becomes of a frame. -/
def Outcome.class : Outcome D → RoutingClass
  | .unbound => .unbound
  | .undecodable _ => .undecodable
  | .dispatched .. => .dispatched

theorem class_outcome (demux : Demultiplexer D) (frame : Frame) :
  (demux.outcome frame).class = (demux.route frame).class
  := by
  rw [outcome, RoutedFrame.class, route]
  dsimp only
  cases demux.binding? frame.key with
  | none => rfl
  | some binding =>
      dsimp only [Binding.message?]
      cases (D.format binding.kind).decode frame with
      | error reason => rfl
      | ok value => rfl

theorem get_countOutcome (counts : RoutingCounts) (outcome : Outcome D) (c : RoutingClass) :
  (countOutcome counts outcome).get c = counts.get c + if outcome.class = c then 1 else 0
  := by
  cases outcome with
  | unbound => cases c <;> simp [countOutcome, RoutingCounts.get, Outcome.class]
  | undecodable reason => cases c <;> simp [countOutcome, RoutingCounts.get, Outcome.class]
  | dispatched channel message =>
      cases c <;> simp [countOutcome, RoutingCounts.get, Outcome.class]

/-- A counter counts the frames of its class. -/
theorem get_countFindings (demux : Demultiplexer D) (findings : List Finding)
    (counts : RoutingCounts) (c : RoutingClass) :
  (findings.foldl demux.countFinding counts).get c = counts.get c +
    UInt32.ofNat (((findings.filterMap Finding.frame?).map demux.route).countP (·.class = c))
  := by
  induction findings generalizing counts with
  | nil =>
      symm
      apply UInt32.add_zero
  | cons finding findings ih =>
      rw [List.foldl_cons, ih]
      cases finding with
      | rejected cause => rfl
      | frame frame =>
          have hframe : (Finding.frame frame).frame? = some frame := rfl
          rw [List.filterMap_cons_some hframe, List.map_cons, List.countP_cons, Nat.add_comm,
            UInt32.ofNat_add, ← UInt32.add_assoc, countFinding, get_countOutcome,
            class_outcome]
          by_cases hclass : (demux.route frame).class = c
          · simp [hclass]
          · simp [hclass]

theorem delivery?_reactions (demux : Demultiplexer D) (findings : List Finding) :
  (findings.map demux.reaction).filterMap Action.delivery? =
    ((findings.filterMap Finding.frame?).map demux.route).filterMap RoutedFrame.delivery?
  := by
  rw [List.filterMap_map, List.filterMap_map, List.filterMap_filterMap]
  apply List.filterMap_congr
  intro finding _
  apply delivery?_reaction demux

/-! ### What a call does -/

theorem binding?_eq_none_of_bind {demux after : Demultiplexer D} {kind : D.Kind}
    {system : SystemId} {component : ComponentId} {channel : ChannelId}
    (h : demux.bind kind system component channel = .ok after) :
  demux.binding? ⟨(D.format kind).id, system, component⟩ = none
  := by
  rw [Demultiplexer.bind] at h
  split at h
  · cases h
  · rename_i hfault
    rw [bindFault?] at hfault
    split at hfault
    · cases hfault
    · split at hfault
      · cases hfault
      · rename_i hsome
        apply Option.not_isSome_iff_eq_none.mp hsome

/-- A call that binds changes at most the binding of a routing key that was not bound, and
sends nothing. -/
theorem answer_bind (demux : Demultiplexer D) (kind : D.Kind) (system : SystemId)
    (component : ComponentId) (channel : ChannelId) :
  let answered := demux.answer (.bind kind system component channel)
  answered.1.filterMap Action.delivery? = [] ∧ answered.2.counts = demux.counts ∧
    answered.2.deframer = demux.deframer ∧
    ∀ key, answered.2.binding? key = demux.binding? key ∨ demux.binding? key = none
  := by
  rw [answer]
  split
  · exact ⟨rfl, rfl, rfl, fun _ => .inl rfl⟩
  · rename_i after h
    have hnone := binding?_eq_none_of_bind h
    obtain ⟨-, rfl⟩ := bind_eq_ok h
    refine ⟨rfl, rfl, rfl, ?_⟩
    intro key
    by_cases hkey : key = ⟨(D.format kind).id, system, component⟩
    · right
      rw [hkey, hnone]
    · left
      rw [binding?, List.lookup_cons, beq_eq_false_iff_ne.mpr hkey, binding?]

/-- A call that consumes bytes sends the messages of the frames that are found, counts these
frames, and leaves the bindings as they are. -/
theorem answer_consume (demux : Demultiplexer D) (reads : List (List UInt8)) :
  let answered := demux.answer (.consume reads)
  let frames := demux.routed reads.flatten
  answered.1.filterMap Action.delivery? = frames.filterMap RoutedFrame.delivery? ∧
    (∀ c, answered.2.counts.get c =
      demux.counts.get c + UInt32.ofNat (frames.countP (·.class = c))) ∧
    answered.2.deframer.counts.frames =
      demux.deframer.counts.frames + UInt32.ofNat frames.length ∧
    ∀ key, answered.2.binding? key = demux.binding? key
  := by
  rw [answer, consumeReads_eq, consumeBytes_eq]
  refine ⟨demux.delivery?_reactions _, demux.get_countFindings _ _, ?_, fun _ => rfl⟩
  rw [routed, List.length_map, Deframer.counts_pushAll, FindingCounts.frames_addAll]

/-- What a call sends reaches the receivers of a hub: to what waits for a receiver are added the
messages of the frames whose bindings have its channel, of which the last remain. -/
theorem waiting_deliver_answer (demux : Demultiplexer D) (call : DemultiplexerCall D)
    {hub : Hub D.Message} (reachable : hub.Reachable) (placed : hub.Placed) {r : ReceiverId}
    {receiver : Receiver D.Message} (h : hub.receiver? r = some receiver) :
  (hub.deliver (demux.answer call).1).waiting r =
    (hub.waiting r ++ Hub.messagesOn receiver.channel
        ((demux.routed call.bytes).filterMap RoutedFrame.delivery?)).rtake
      receiver.buffer.capacity
  := by
  have hdeliveries : (demux.answer call).1.filterMap Action.delivery? =
      (demux.routed call.bytes).filterMap RoutedFrame.delivery? := by
    cases call with
    | bind kind system component channel =>
        apply (demux.answer_bind kind system component channel).1
    | consume reads => apply (demux.answer_consume reads).1
  rw [Hub.waiting_deliver reachable placed h, hdeliveries]

/-! ### Searches between calls -/

/-- What is known stays known when a routing key is bound. -/
theorem find?_of_bind_of_known {demux after : Demultiplexer D} {kind : D.Kind}
    {system : SystemId} {component : ComponentId} {channel : ChannelId}
    (h : demux.bind kind system component channel = .ok after) {id : MessageId}
    {descriptor : Descriptor} (known : demux.known.find? id = some descriptor) :
  after.known.find? id = some descriptor
  := by
  obtain ⟨hsame, rfl⟩ := bind_eq_ok h
  by_cases hid : id = (D.format kind).descriptor.id
  · subst hid
    rw [DescriptorTable.find?_insert_self, hsame descriptor known]
  · rw [DescriptorTable.find?_insert_of_ne _ hid]
    apply known

/-- After a call the search is stuck if it was before: the bytes that are consumed are searched
to the end, and a candidate that could not be decided waits for bytes and not for a binding. -/
theorem stuck_answer {demux : Demultiplexer D}
    (stuck : Stuck demux.known.find? demux.deframer.window) (call : DemultiplexerCall D) :
  Stuck (demux.answer call).2.known.find? (demux.answer call).2.deframer.window
  := by
  cases call with
  | bind kind system component channel =>
      rw [answer]
      split
      · apply stuck
      · rename_i after h
        have hwindow : after.deframer = demux.deframer := by
          rw [(bind_eq_ok h).2]
        rw [hwindow]
        apply stuck.of_known
        intro id descriptor
        apply find?_of_bind_of_known h
  | consume reads =>
      rw [answer, consumeReads_eq, consumeBytes_eq]
      apply Deframer.stuck_pushAll _ stuck

theorem stuck_answerAll {demux : Demultiplexer D}
    (stuck : Stuck demux.known.find? demux.deframer.window)
    (calls : List (DemultiplexerCall D)) :
  Stuck (demux.answerAll calls).2.known.find? (demux.answerAll calls).2.deframer.window
  := by
  induction calls generalizing demux with
  | nil => apply stuck
  | cons call calls ih => apply ih (stuck_answer stuck call)

/-- The frames that are found during a call are those that a single pass finds in the window
and the bytes of the call, and the window after it is what the pass leaves. -/
theorem routed_eq_scan {demux : Demultiplexer D}
    (stuck : Stuck demux.known.find? demux.deframer.window) (call : DemultiplexerCall D) :
  let found := scan demux.known.find? (demux.deframer.window ++ call.bytes)
  demux.routed call.bytes = (found.1.filterMap Finding.frame?).map demux.route ∧
    (demux.answer call).2.deframer.window = found.2
  := by
  dsimp only
  rw [scan_eq_drain, routed, Deframer.pushAll_eq_drain _ stuck]
  refine ⟨rfl, ?_⟩
  cases call with
  | bind kind system component channel =>
      rw [(demux.answer_bind kind system component channel).2.2.1, DemultiplexerCall.bytes,
        List.append_nil, stuck.drain_eq]
  | consume reads =>
      rw [answer, consumeReads_eq, consumeBytes_eq, Deframer.pushAll_eq_drain _ stuck]
      rfl

theorem routedAll_append (demux : Demultiplexer D) (calls others : List (DemultiplexerCall D)) :
  demux.routedAll (calls ++ others) =
    demux.routedAll calls ++ (demux.answerAll calls).2.routedAll others
  := by
  induction calls generalizing demux with
  | nil => rfl
  | cons call calls ih =>
      rw [List.cons_append, routedAll, ih, routedAll, List.append_assoc]
      rfl

/-! ### Accounts -/

/-- Frames of one routing key are first some without a binding and then some with the
binding that the key has. -/
def Splits (binding? : Option (Binding D)) (frames : List (RoutedFrame D)) : Prop :=
  ∃ before after, frames = before ++ after ∧ (∀ routed ∈ before, routed.binding? = none) ∧
    ∀ routed ∈ after, routed.binding? = binding?

/-- The deliveries, the numbers and the bindings of a demultiplexer account for frames. -/
structure AccountsFor (demux : Demultiplexer D) (actions : List (Action D))
    (frames : List (RoutedFrame D)) : Prop where
  deliveries_eq : actions.filterMap Action.delivery? = frames.filterMap RoutedFrame.delivery?
  counts_eq : ∀ c, demux.counts.get c = UInt32.ofNat (frames.countP (·.class = c))
  frames_eq : demux.deframer.counts.frames = UInt32.ofNat frames.length
  splits : ∀ key, Splits (demux.binding? key) (frames.filter (·.frame.key = key))

/-- A routing key that was not bound may be bound. -/
theorem Splits.of_none {frames : List (RoutedFrame D)} (splits : Splits none frames)
    (binding? : Option (Binding D)) :
  Splits binding? frames
  := by
  obtain ⟨before, after, rfl, hbefore, hafter⟩ := splits
  refine ⟨before ++ after, [], (List.append_nil _).symm, ?_, ?_⟩
  · intro routed hrouted
    rcases List.mem_append.mp hrouted with hrouted | hrouted
    · apply hbefore routed hrouted
    · apply hafter routed hrouted
  · intro routed hrouted
    cases hrouted

/-- More frames have the binding that the routing key has. -/
theorem Splits.append {binding? : Option (Binding D)} {frames more : List (RoutedFrame D)}
    (splits : Splits binding? frames) (h : ∀ routed ∈ more, routed.binding? = binding?) :
  Splits binding? (frames ++ more)
  := by
  obtain ⟨before, after, rfl, hbefore, hafter⟩ := splits
  refine ⟨before, after ++ more, List.append_assoc _ _ _, hbefore, ?_⟩
  intro routed hrouted
  rcases List.mem_append.mp hrouted with hrouted | hrouted
  · apply hafter routed hrouted
  · apply h routed hrouted

theorem binding?_of_mem_routed {demux : Demultiplexer D} {bytes : List UInt8}
    {routed : RoutedFrame D} (h : routed ∈ demux.routed bytes) :
  routed.binding? = demux.binding? routed.frame.key
  := by
  obtain ⟨frame, -, rfl⟩ := List.mem_map.mp h
  rfl

theorem accountsFor_new (input : UInt8) :
  ({ input } : Demultiplexer D).AccountsFor [] []
  := by
  constructor
  · rfl
  · intro c
    cases c <;> rfl
  · rfl
  · intro key
    refine ⟨[], [], rfl, ?_, ?_⟩
    · intro routed h
      cases h
    · intro routed h
      cases h

/-- Answering a call adds the frames that are found during the call to the account. -/
theorem AccountsFor.answer {demux : Demultiplexer D} {actions : List (Action D)}
    {frames : List (RoutedFrame D)} (accounts : demux.AccountsFor actions frames)
    (call : DemultiplexerCall D) :
  (demux.answer call).2.AccountsFor (actions ++ (demux.answer call).1)
    (frames ++ demux.routed call.bytes)
  := by
  cases call with
  | bind kind system component channel =>
      obtain ⟨hdeliveries, hcounts, hdeframer, hbindings⟩ :=
        demux.answer_bind kind system component channel
      change AccountsFor _ _ (frames ++ [])
      rw [List.append_nil]
      constructor
      · rw [List.filterMap_append, hdeliveries, List.append_nil]
        apply accounts.deliveries_eq
      · rw [hcounts]
        apply accounts.counts_eq
      · rw [hdeframer]
        apply accounts.frames_eq
      · intro key
        have hsplits := accounts.splits key
        rcases hbindings key with hsame | hnone
        · rw [hsame]
          apply hsplits
        · rw [hnone] at hsplits
          apply hsplits.of_none
  | consume reads =>
      obtain ⟨hdeliveries, hcounts, hframes, hbindings⟩ := demux.answer_consume reads
      constructor
      · rw [List.filterMap_append, List.filterMap_append, hdeliveries, accounts.deliveries_eq]
        rfl
      · intro c
        rw [hcounts, accounts.counts_eq, List.countP_append, UInt32.ofNat_add]
        rfl
      · rw [hframes, accounts.frames_eq, List.length_append, UInt32.ofNat_add]
        rfl
      · intro key
        rw [hbindings, List.filter_append]
        apply (accounts.splits key).append
        intro routed hrouted
        obtain ⟨hmem, hkey⟩ := List.mem_filter.mp hrouted
        rw [binding?_of_mem_routed hmem, of_decide_eq_true hkey]

theorem AccountsFor.answerAll {demux : Demultiplexer D} {actions : List (Action D)}
    {frames : List (RoutedFrame D)} (accounts : demux.AccountsFor actions frames)
    (calls : List (DemultiplexerCall D)) :
  (demux.answerAll calls).2.AccountsFor (actions ++ (demux.answerAll calls).1)
    (frames ++ demux.routedAll calls)
  := by
  induction calls generalizing demux actions frames with
  | nil =>
      rw [Demultiplexer.answerAll, routedAll, List.append_nil, List.append_nil]
      apply accounts
  | cons call calls ih =>
      have hrest := ih (accounts.answer call)
      rw [List.append_assoc, List.append_assoc] at hrest
      apply hrest

/-! ### Streams of bindings -/

section Stream

variable {demux : Demultiplexer D} {actions : List (Action D)} {frames : List (RoutedFrame D)}

/-- A frame had no binding or the one that its routing key has. -/
theorem AccountsFor.binding?_eq (accounts : demux.AccountsFor actions frames)
    {routed : RoutedFrame D} (h : routed ∈ frames) :
  routed.binding? = none ∨ routed.binding? = demux.binding? routed.frame.key
  := by
  obtain ⟨before, after, hsplit, hbefore, hafter⟩ := accounts.splits routed.frame.key
  have hmem : routed ∈ before ++ after := by
    rw [← hsplit]
    apply List.mem_filter.mpr ⟨h, decide_eq_true rfl⟩
  apply (List.mem_append.mp hmem).imp
  · apply hbefore
  · apply hafter

/-- What is sent on the channel of a binding, when no other binding has this channel, is sent
for frames of its routing key. -/
theorem AccountsFor.filter_deliveries (accounts : demux.AccountsFor actions frames)
    {key : RoutingKey} {binding : Binding D} (h : demux.binding? key = some binding)
    (exclusive : ∀ other found, demux.binding? other = some found →
      found.channel = binding.channel → other = key) :
  (actions.filterMap Action.delivery?).filter (·.1 = binding.channel) =
    (frames.filter (·.frame.key = key)).filterMap RoutedFrame.delivery?
  := by
  rw [accounts.deliveries_eq, List.filter_filterMap, List.filterMap_filter]
  apply List.filterMap_congr
  intro routed hrouted
  -- A frame without a binding sends nothing.  Any other has the binding of its routing key,
  -- and the channel says which key that is.
  rcases accounts.binding?_eq hrouted with hnone | hsame
  · rw [RoutedFrame.delivery?_of_none hnone, ite_self]
    rfl
  · cases hfound : demux.binding? routed.frame.key with
    | none =>
        rw [hfound] at hsame
        rw [RoutedFrame.delivery?_of_none hsame, ite_self]
        rfl
    | some found =>
        rw [hfound] at hsame
        rw [RoutedFrame.delivery?_of_some hsame]
        by_cases hkey : routed.frame.key = key
        · rw [hkey, h] at hfound
          cases hfound
          rw [if_pos (decide_eq_true hkey)]
          cases binding.message? routed.frame with
          | none => rfl
          | some message => simp
        · have hchannel : found.channel ≠ binding.channel := by
            intro heq
            apply hkey (exclusive _ _ hfound heq)
          rw [if_neg (fun hsame => hkey (of_decide_eq_true hsame))]
          cases found.message? routed.frame with
          | none => rfl
          | some message => simp [hchannel]

/-- What is sent for frames with a binding are the messages that they hold for it. -/
theorem filterMap_delivery?_append {before after : List (RoutedFrame D)} {binding : Binding D}
    (hbefore : ∀ routed ∈ before, routed.binding? = none)
    (hafter : ∀ routed ∈ after, routed.binding? = some binding) :
  (before ++ after).filterMap RoutedFrame.delivery? =
    after.filterMap (fun routed =>
      (binding.message? routed.frame).map (binding.channel, ·))
  := by
  have hnone : before.filterMap RoutedFrame.delivery? = [] := by
    apply List.filterMap_eq_nil_iff.mpr
    intro routed hrouted
    apply RoutedFrame.delivery?_of_none (hbefore routed hrouted)
  rw [List.filterMap_append, hnone, List.nil_append]
  apply List.filterMap_congr
  intro routed hrouted
  apply RoutedFrame.delivery?_of_some (hafter routed hrouted)

end Stream

/-- The counters add up, as long as none of them has gone round. -/
theorem AccountsFor.add_eq {demux : Demultiplexer D} {actions : List (Action D)}
    {frames : List (RoutedFrame D)} (accounts : demux.AccountsFor actions frames)
    (h : frames.length < UInt32.size) :
  demux.counts.dispatched.toNat + demux.counts.unbound.toNat +
    demux.counts.undecodable.toNat = demux.deframer.counts.frames.toNat
  := by
  have hcount (c : RoutingClass) :
      (demux.counts.get c).toNat = frames.countP (·.class = c) := by
    rw [accounts.counts_eq, UInt32.toNat_ofNat_of_lt']
    apply Nat.lt_of_le_of_lt List.countP_le_length h
  have hdispatched : demux.counts.dispatched.toNat = _ := hcount .dispatched
  have hunbound : demux.counts.unbound.toNat = _ := hcount .unbound
  have hundecodable : demux.counts.undecodable.toNat = _ := hcount .undecodable
  rw [hdispatched, hunbound, hundecodable, accounts.frames_eq, UInt32.toNat_ofNat_of_lt' h]
  apply RoutedFrame.countP_class

/-- Every frame has the one outcome that the binding of its routing key decides.  The frames of
a call are those that a single pass finds in the bytes that were left by the calls before and
those of the call, each with the binding of its routing key at that time, and they are behind
the frames of the calls before.  The deliveries are those of the frames in the order of the
stream, each counter counts the frames of its class, and the counters add up to the number of
frames.  What a binding sends are the messages that the frames of its routing key hold, from the
first frame after the binding on.  When no other binding has its channel, nothing else is sent
there. -/
theorem outcomes_of_answerAll (input : UInt8) (calls : List (DemultiplexerCall D)) :
  let demux := (answerAll { input } calls).2
  let sent := (answerAll { input } calls).1.filterMap Action.delivery?
  let frames := routedAll { input } calls
  (∀ before call after, calls = before ++ call :: after →
    let earlier := (answerAll { input } before).2
    let found := scan earlier.known.find? (earlier.deframer.window ++ call.bytes)
    frames = routedAll { input } before ++
        (found.1.filterMap Finding.frame?).map earlier.route ++
        (earlier.answer call).2.routedAll after ∧
      (earlier.answer call).2.deframer.window = found.2) ∧
    sent = frames.filterMap RoutedFrame.delivery? ∧
    (∀ c, demux.counts.get c = UInt32.ofNat (frames.countP (·.class = c))) ∧
    demux.deframer.counts.frames = UInt32.ofNat frames.length ∧
    (frames.length < UInt32.size →
      demux.counts.dispatched.toNat + demux.counts.unbound.toNat +
        demux.counts.undecodable.toNat = demux.deframer.counts.frames.toNat) ∧
    ∀ key binding, demux.binding? key = some binding →
      ∃ before after, frames.filter (·.frame.key = key) = before ++ after ∧
        (∀ routed ∈ before, routed.binding? = none) ∧
        (∀ routed ∈ after, routed.binding? = some binding) ∧
        (frames.filter (·.frame.key = key)).filterMap RoutedFrame.delivery? =
          after.filterMap (fun routed =>
            (binding.message? routed.frame).map (binding.channel, ·)) ∧
        ((∀ other found, demux.binding? other = some found →
            found.channel = binding.channel → other = key) →
          sent.filter (·.1 = binding.channel) =
            after.filterMap (fun routed =>
              (binding.message? routed.frame).map (binding.channel, ·)))
  := by
  intro demux sent frames
  have accounts : demux.AccountsFor (answerAll { input } calls).1 frames :=
    (accountsFor_new input).answerAll calls
  refine ⟨?_, accounts.deliveries_eq, accounts.counts_eq, accounts.frames_eq, ?_, ?_⟩
  · intro before call after hcalls earlier found
    have stuck : Stuck earlier.known.find? earlier.deframer.window := stuck_answerAll .nil before
    obtain ⟨hframes, hwindow⟩ := routed_eq_scan stuck call
    refine ⟨?_, hwindow⟩
    rw [← hframes, List.append_assoc]
    change routedAll { input } calls = _
    rw [hcalls, routedAll_append]
    rfl
  · apply accounts.add_eq
  · intro key binding hbinding
    obtain ⟨before, after, hsplit, hbefore, hafter⟩ := accounts.splits key
    rw [hbinding] at hafter
    have hstream := filterMap_delivery?_append hbefore hafter
    rw [← hsplit] at hstream
    refine ⟨before, after, hsplit, hbefore, hafter, hstream, ?_⟩
    intro exclusive
    rw [← hstream]
    apply accounts.filter_deliveries hbinding exclusive

end Demultiplexer

end FlightBus

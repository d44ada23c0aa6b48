import FlightBus.Bus.Session
import FlightBus.Proofs.Bus.Slots
import Mathlib.Data.List.Induction

/-!
# Streams of receivers

What waits for a receiver of a session is the content of a queue of its own.  The queue is
empty when the receiver comes about.  Each message that is sent on the channel of the receiver
afterwards is appended once, in the order of sending, for which the oldest message is
discarded when the queue is full; and each message that the receiver takes is the head of the
queue.  Nothing else that happens in the session matters: not the other receivers, nor which
sender of the channel sends, nor the slots, nor the other channels.
-/

namespace FlightBus

/-- What happens to a queue of messages. -/
inductive QueueEvent (α : Type)
  /-- A message is appended. -/
  | append (value : α)
  /-- The head is taken. -/
  | takeHead

/-- The content of a queue of fixed capacity after something happened to it. -/
def QueueEvent.apply {α : Type} (capacity : Nat) (values : List α) : QueueEvent α → List α
  | .append value => enqueue capacity values value
  | .takeHead => values.tail

/-- The message that an action gives back, if it gives one. -/
def HubReply.message? {α : Type} : HubReply α → Option (Numbered α)
  | .message taken => some taken
  | _ => Option.none

namespace HubSession

variable {α : Type} {session : HubSession α}

/-- The session after some actions. -/
def performAll (session : HubSession α) (actions : List (HubAction α)) : HubSession α :=
  actions.foldl (fun session action => (session.perform action).2) session

/-- What an action means for the queue of a receiver of a channel: a message that is sent on
the channel is appended, and a message that the receiver takes is removed. -/
def event? (session : HubSession α) (c : ChannelId) (r : ReceiverId)
    (action : HubAction α) : Option (QueueEvent α) :=
  match action, (session.perform action).1 with
  | .send sender value, _ =>
      if session.senders.find? sender = some c then some (.append value) else none
  | .take name, .message _ | .receive name, .message _ =>
      if session.receivers.find? name = some r then some .takeHead else none
  | _, _ => none

/-- What actions mean, one after the other, for the queue of a receiver of a channel. -/
def events (session : HubSession α) (c : ChannelId) (r : ReceiverId) :
    List (HubAction α) → List (QueueEvent α)
  | [] => []
  | action :: actions =>
      (session.event? c r action).toList ++ (session.perform action).2.events c r actions

/-- An action creates a receiver of a channel, the next in the order of creation. -/
structure Creates (session : HubSession α) (action : HubAction α) (r : ReceiverId)
    (c : ChannelId) (capacity : Nat) : Prop where
  action_eq : ∃ source name,
    action = .receiver source name capacity ∧ session.channelOf? source = some c
  positive : 0 < capacity
  index_eq : r.index = session.hub.receivers.length

/-- A receiver is not gone, and has a channel, a capacity and messages that wait for it. -/
structure Buffers (session : HubSession α) (r : ReceiverId) (c : ChannelId) (capacity : Nat)
    (values : List α) : Prop where
  channel_eq : (session.hub.receiver? r).map Receiver.channel = some c
  capacity_eq : (session.hub.receiver? r).map (·.buffer.capacity) = some capacity
  waiting_eq : (session.hub.waiting r).map Numbered.value = values

/-- Actions can be performed in two parts. -/
theorem performAll_append (session : HubSession α) (actions others : List (HubAction α)) :
  session.performAll (actions ++ others) = (session.performAll actions).performAll others
  := List.foldl_append

theorem performAll_singleton (session : HubSession α) (action : HubAction α) :
  session.performAll [action] = (session.perform action).2
  := rfl

/-- What actions mean for a queue can be told in two parts, of which the second starts from the
session that the first part leaves. -/
theorem events_append (session : HubSession α) (c : ChannelId) (r : ReceiverId)
    (actions others : List (HubAction α)) :
  session.events c r (actions ++ others) =
    session.events c r actions ++ (session.performAll actions).events c r others
  := by
  induction actions generalizing session with
  | nil => rfl
  | cons action actions ih =>
      rw [List.cons_append, events, ih, events, List.append_assoc]
      rfl

theorem events_concat (session : HubSession α) (c : ChannelId) (r : ReceiverId)
    (actions : List (HubAction α)) (action : HubAction α) :
  session.events c r (actions ++ [action]) =
    session.events c r actions ++ ((session.performAll actions).event? c r action).toList
  := by
  rw [events_append, events, events, List.append_nil]

/-! ### Single actions -/

/-- An attempt to create a receiver changes nothing or creates one. -/
theorem perform_receiver (session : HubSession α) (source name : String) (capacity : Nat) :
  (session.perform (.receiver source name capacity)).2 = session ∨
    ∃ c, ∃ positive : 0 < capacity, session.channelOf? source = some c ∧
      (session.perform (.receiver source name capacity)).2 =
        { session with hub := (session.hub.subscribe c capacity positive).2 }.holdReceiver
          name ⟨session.hub.receivers.length⟩
  := by
  rw [perform]
  split
  · left
    rfl
  · rename_i c hc
    split
    · left
      rfl
    · rename_i r hub hsubscribe
      right
      rw [Hub.subscribe?, RingBuffer.new?] at hsubscribe
      split at hsubscribe
      · rename_i positive
        cases hsubscribe
        exact ⟨c, positive, hc, rfl⟩
      · cases hsubscribe

/-- A message that is sent through a sender goes to the channel of the sender. -/
theorem perform_send {sender : String} {c : ChannelId}
    (h : session.senders.find? sender = some c) (value : α) :
  (session.perform (.send sender value)).2 =
    { session with hub := session.hub.sendCopies c (⟨value, ·⟩) }
  := by
  rw [perform, h]

/-- To take through a name is to take from the receiver that is held under it. -/
theorem perform_take {name : String} {r : ReceiverId}
    (h : session.receivers.find? name = some r) :
  session.perform (.take name) =
    ((session.hub.take r).1.elim .none .message,
      { session with hub := (session.hub.take r).2 })
  := by
  rw [perform, h]
  dsimp only
  split
  · rename_i hub htake
    rw [htake]
    rfl
  · rename_i hub htake
    rw [htake]
    rfl

/-- To receive is to take, but for the reply when there is no message. -/
theorem perform_receive {name : String} {r : ReceiverId}
    (h : session.receivers.find? name = some r) :
  ∃ reason, session.perform (.receive name) =
    ((session.hub.take r).1.elim (.failed reason) .message,
      { session with hub := (session.hub.take r).2 })
  := by
  rw [perform, h]
  simp only [Hub.receive]
  obtain ⟨taken, hub⟩ := session.hub.take r
  cases taken with
  | none => exact ⟨_, rfl⟩
  | some message => exact ⟨.idle, rfl⟩

/-! ### Handles -/

/-- The handles of a table are of channels that the hub has. -/
def Knows (hub : Hub (Numbered α)) (handles : Named ChannelId) : Prop :=
  ∀ name c, handles.find? name = some c → c.index < hub.channels.length

section Knows

variable {hub after : Hub (Numbered α)} {handles : Named ChannelId}

/-- Handles stay known when there are more channels. -/
theorem Knows.mono (knows : Knows hub handles)
    (h : hub.channels.length ≤ after.channels.length) :
  Knows after handles
  := by
  intro name c hc
  apply Nat.lt_of_lt_of_le (knows name c hc) h

theorem Knows.insert (knows : Knows hub handles) (name : String) {c : ChannelId}
    (h : c.index < hub.channels.length) :
  Knows hub (handles.insert name c)
  := by
  intro other found hfound
  rcases Named.find?_insert_eq_some.mp hfound with ⟨-, rfl⟩ | ⟨-, hfound⟩
  · apply h
  · apply knows other found hfound

theorem Knows.erase (knows : Knows hub handles) (name : String) :
  Knows hub (handles.erase name)
  := by
  intro other found hfound
  apply knows other found (Named.find?_erase_eq_some.mp hfound).2

end Knows

/-! ### Sessions that came about by actions -/

/-- The hub came about by its operations, its receivers have their places, and the handles
are of channels that it has. -/
structure Regular (session : HubSession α) : Prop where
  reachable : session.hub.Reachable
  placed : session.hub.Placed
  channels_known : Knows session.hub session.channels
  senders_known : Knows session.hub session.senders

theorem regular_empty :
  ({} : HubSession α).Regular
  := by
  refine ⟨.empty, Hub.placed_empty, ?_, ?_⟩
  · intro name c h
    cases h
  · intro name c h
    cases h

namespace Regular

/-- A name that stands for a channel stands for one that the hub has. -/
theorem channelOf?_lt (regular : session.Regular) {name : String} {c : ChannelId}
    (h : session.channelOf? name = some c) :
  c.index < session.hub.channels.length
  := by
  rw [channelOf?] at h
  cases hchannel : session.channels.find? name with
  | none =>
      rw [hchannel] at h
      apply regular.senders_known name c h
  | some found =>
      rw [hchannel] at h
      cases h
      apply regular.channels_known name c hchannel

/-- A session stays regular when its hub goes on. -/
theorem setHub (regular : session.Regular) {hub : Hub (Numbered α)}
    (reachable : hub.Reachable) (placed : hub.Placed)
    (h : session.hub.channels.length ≤ hub.channels.length) :
  Regular { session with hub }
  := ⟨reachable, placed, regular.channels_known.mono h, regular.senders_known.mono h⟩

/-- A session stays regular when its hub goes on and the places are as they were. -/
theorem setHub_of_places (regular : session.Regular) {hub : Hub (Numbered α)}
    (reachable : hub.Reachable) (places : session.hub.Places hub) :
  Regular { session with hub }
  := regular.setHub reachable (regular.placed.of_places places) places.channels_le

theorem retain (regular : session.Regular) (c : ChannelId) :
  Regular { session with hub := session.hub.retain c }
  := regular.setHub_of_places (regular.reachable.retain c) (Hub.places_retain _ c)

theorem release (regular : session.Regular) (c : ChannelId) :
  Regular { session with hub := session.hub.release c }
  := regular.setHub_of_places (regular.reachable.release c) (Hub.places_release _ c)

theorem unsubscribe (regular : session.Regular) (r : ReceiverId) :
  Regular { session with hub := session.hub.unsubscribe r }
  := regular.setHub_of_places (regular.reachable.unsubscribe r)
    (Hub.places_unsubscribe _ r)

theorem take (regular : session.Regular) (r : ReceiverId) :
  Regular { session with hub := (session.hub.take r).2 }
  := regular.setHub_of_places (regular.reachable.take r) (Hub.places_take _ r)

/-- The handle that is replaced is dropped. -/
theorem releaseHeld (regular : session.Regular) (held : Option ChannelId) :
  Regular { session with hub := held.elim session.hub session.hub.release }
  := by
  cases held with
  | none => apply regular
  | some c => apply regular.release

/-- It does not matter for the hub under which names the receivers are held. -/
theorem setReceivers (regular : session.Regular) (receivers : Named ReceiverId) :
  Regular { session with receivers }
  := ⟨regular.reachable, regular.placed, regular.channels_known, regular.senders_known⟩

theorem length_releaseHeld (hub : Hub (Numbered α)) (held : Option ChannelId) :
  (held.elim hub hub.release).channels.length = hub.channels.length
  := by
  cases held with
  | none => rfl
  | some c => apply List.length_modify

/-- A session stays regular when a handle of a channel is held, in place of another. -/
theorem holdChannel (regular : session.Regular) (name : String) {c : ChannelId}
    (h : c.index < session.hub.channels.length) :
  (session.holdChannel name c).Regular
  := by
  obtain ⟨reachable, placed, channels, senders⟩ :=
    regular.releaseHeld (session.channels.find? name)
  refine ⟨reachable, placed, channels.insert name ?_, senders⟩
  rw [length_releaseHeld]
  apply h

theorem holdSender (regular : session.Regular) (name : String) {c : ChannelId}
    (h : c.index < session.hub.channels.length) :
  (session.holdSender name c).Regular
  := by
  obtain ⟨reachable, placed, channels, senders⟩ :=
    regular.releaseHeld (session.senders.find? name)
  refine ⟨reachable, placed, channels, senders.insert name ?_⟩
  rw [length_releaseHeld]
  apply h

/-- A session stays regular when a receiver is held, in place of another. -/
theorem holdReceiver (regular : session.Regular) (name : String) (r : ReceiverId) :
  (session.holdReceiver name r).Regular
  := by
  rw [HubSession.holdReceiver]
  cases session.receivers.find? name with
  | none => apply regular.setReceivers
  | some old => apply (regular.unsubscribe old).setReceivers

/-- A session stays regular when what is held under a name is dropped. -/
theorem drop? (regular : session.Regular) {name : String} {after : HubSession α}
    (h : session.drop? name = some after) :
  after.Regular
  := by
  rw [HubSession.drop?] at h
  split at h
  · rename_i c _
    cases h
    obtain ⟨reachable, placed, channels, senders⟩ := regular.release c
    exact ⟨reachable, placed, channels.erase name, senders⟩
  · rename_i c _ _
    cases h
    obtain ⟨reachable, placed, channels, senders⟩ := regular.release c
    exact ⟨reachable, placed, channels, senders.erase name⟩
  · cases h
    apply (regular.unsubscribe _).setReceivers
  · cases h

/-- A session stays regular by every action. -/
theorem perform (regular : session.Regular) (action : HubAction α) :
  (session.perform action).2.Regular
  := by
  have hretain (c : ChannelId) :
      (session.hub.retain c).channels.length = session.hub.channels.length :=
    List.length_modify _ _ _
  cases action with
  | create name =>
      have hopen := regular.setHub_of_places regular.reachable.openChannel
        (Hub.places_openChannel _)
      apply hopen.holdChannel name
      dsimp only
      rw [Hub.length_openChannel]
      apply Nat.lt_succ_self
  | clone source name =>
      rw [HubSession.perform]
      split
      · rename_i c hc
        apply (regular.retain c).holdChannel name
        rw [hretain]
        apply regular.channels_known _ c hc
      · rename_i c hc _
        apply (regular.retain c).holdSender name
        rw [hretain]
        apply regular.senders_known _ c hc
      · apply regular
  | sender channel name =>
      rw [HubSession.perform]
      split
      · rename_i c hc
        apply (regular.retain c).holdSender name
        rw [hretain]
        apply regular.channels_known _ c hc
      · apply regular
  | receiver source name capacity =>
      obtain hsame | ⟨c, positive, hc, hafter⟩ :=
        session.perform_receiver source name capacity
      · rw [hsame]
        apply regular
      · rw [hafter]
        apply Regular.holdReceiver
        apply regular.setHub (regular.reachable.subscribe c capacity positive)
        · apply regular.placed.subscribe (regular.channelOf?_lt hc)
        · apply Nat.le_of_eq (List.length_modify _ _ _).symm
  | send sender value =>
      cases hsender : session.senders.find? sender with
      | none =>
          rw [HubSession.perform, hsender]
          apply regular
      | some c =>
          rw [perform_send hsender]
          apply regular.setHub_of_places (regular.reachable.sendCopies c _)
          apply Hub.places_sendCopies
  | take name =>
      cases hname : session.receivers.find? name with
      | none =>
          rw [HubSession.perform, hname]
          apply regular
      | some r =>
          rw [perform_take hname]
          apply regular.take r
  | receive name =>
      cases hname : session.receivers.find? name with
      | none =>
          rw [HubSession.perform, hname]
          apply regular
      | some r =>
          obtain ⟨reason, hperform⟩ := perform_receive hname
          rw [hperform]
          apply regular.take r
  | drop name =>
      rw [HubSession.perform]
      split
      · rename_i after hafter
        apply regular.drop? hafter
      · apply regular

theorem performAll (regular : session.Regular) (actions : List (HubAction α)) :
  (session.performAll actions).Regular
  := by
  induction actions using List.reverseRecOn with
  | nil => apply regular
  | append_singleton actions action ih =>
      rw [performAll_append, performAll_singleton]
      apply ih.perform

end Regular

/-- Every session that came about by actions is regular. -/
theorem regular_performAll (actions : List (HubAction α)) :
  (performAll {} actions).Regular
  := regular_empty.performAll actions

/-! ### Outcomes of actions -/

/-- To send is to append to the queues of the receivers of the channel. -/
theorem event?_send (session : HubSession α) (c : ChannelId) (r : ReceiverId)
    (sender : String) (value : α) :
  session.event? c r (.send sender value) =
    if session.senders.find? sender = some c then some (.append value) else none
  := rfl

/-- To take is to take the head of the own queue, if there is a message. -/
theorem event?_take {name : String} {taker : ReceiverId}
    (h : session.receivers.find? name = some taker) (c : ChannelId) (r : ReceiverId) :
  session.event? c r (.take name) =
    if (session.hub.take taker).1.isSome ∧ taker = r then some .takeHead else none
  := by
  unfold event?
  rw [perform_take h]
  cases (session.hub.take taker).1 with
  | none => simp
  | some message => simp [h]

theorem event?_receive {name : String} {taker : ReceiverId}
    (h : session.receivers.find? name = some taker) (c : ChannelId) (r : ReceiverId) :
  session.event? c r (.receive name) =
    if (session.hub.take taker).1.isSome ∧ taker = r then some .takeHead else none
  := by
  obtain ⟨reason, hperform⟩ := perform_receive h
  unfold event?
  rw [hperform]
  cases (session.hub.take taker).1 with
  | none => simp
  | some message => simp [h]

/-- Dropping a handle changes no receiver. -/
theorem receivers_releaseHeld (hub : Hub (Numbered α)) (held : Option ChannelId) :
  (held.elim hub hub.release).receivers = hub.receivers
  := by
  cases held with
  | none => rfl
  | some c => rfl

/-- What an action does with receivers. -/
inductive Outcome (session : HubSession α) : HubAction α → HubSession α → Prop
  /-- Only handles change. -/
  | handles {action : HubAction α} {after : HubSession α}
      (hub_eq : after.hub.receivers = session.hub.receivers)
      (names_eq : after.receivers = session.receivers)
      (event_eq : ∀ c r, session.event? c r action = none) :
      Outcome session action after
  /-- A receiver is created and held, and the one that was held under its name is dropped. -/
  | subscribed {source name : String} {capacity : Nat} {c : ChannelId}
      (positive : 0 < capacity) (known : session.channelOf? source = some c) :
      Outcome session (.receiver source name capacity)
        ({ session with hub := (session.hub.subscribe c capacity positive).2 }.holdReceiver
          name ⟨session.hub.receivers.length⟩)
  /-- A message is sent. -/
  | sent {sender : String} {c : ChannelId} (value : α)
      (held : session.senders.find? sender = some c) :
      Outcome session (.send sender value)
        { session with hub := session.hub.sendCopies c (⟨value, ·⟩) }
  /-- A message is taken, if there is one. -/
  | taken {action : HubAction α} {name : String} {taker : ReceiverId}
      (held : session.receivers.find? name = some taker)
      (event_eq : ∀ c r, session.event? c r action =
        if (session.hub.take taker).1.isSome ∧ taker = r then some .takeHead else none) :
      Outcome session action { session with hub := (session.hub.take taker).2 }
  /-- A receiver is dropped. -/
  | dropped {name : String} {r : ReceiverId}
      (held : session.receivers.find? name = some r) :
      Outcome session (.drop name)
        { session with
          hub := session.hub.unsubscribe r
          receivers := session.receivers.erase name }

theorem outcome_of_drop? {name : String} {after : HubSession α}
    (h : session.drop? name = some after) :
  session.Outcome (.drop name) after
  := by
  rw [drop?] at h
  split at h
  · cases h
    exact .handles rfl rfl fun _ _ => rfl
  · cases h
    exact .handles rfl rfl fun _ _ => rfl
  · rename_i hr _ _
    cases h
    apply Outcome.dropped hr
  · cases h

/-- Every action has one of the outcomes, so that the proofs below go by cases on these. -/
theorem outcome_perform (session : HubSession α) (action : HubAction α) :
  session.Outcome action (session.perform action).2
  := by
  cases action with
  | create name => exact .handles (receivers_releaseHeld _ _) rfl fun _ _ => rfl
  | clone source name =>
      rw [perform]
      split
      · exact .handles (receivers_releaseHeld _ _) rfl fun _ _ => rfl
      · exact .handles (receivers_releaseHeld _ _) rfl fun _ _ => rfl
      · exact .handles rfl rfl fun _ _ => rfl
  | sender channel name =>
      rw [perform]
      split
      · exact .handles (receivers_releaseHeld _ _) rfl fun _ _ => rfl
      · exact .handles rfl rfl fun _ _ => rfl
  | receiver source name capacity =>
      obtain hsame | ⟨c, positive, hc, hafter⟩ :=
        session.perform_receiver source name capacity
      · rw [hsame]
        exact .handles rfl rfl fun _ _ => rfl
      · rw [hafter]
        apply Outcome.subscribed positive hc
  | send sender value =>
      cases hsender : session.senders.find? sender with
      | none =>
          rw [perform, hsender]
          apply Outcome.handles rfl rfl
          intro c r
          rw [event?_send, hsender]
          rfl
      | some c =>
          rw [perform_send hsender]
          apply Outcome.sent value hsender
  | take name =>
      cases hname : session.receivers.find? name with
      | none =>
          have hperform : session.perform (.take name) = (.unknownName, session) := by
            rw [perform, hname]
          rw [hperform]
          apply Outcome.handles rfl rfl
          intro c r
          unfold event?
          rw [hperform]
      | some taker =>
          rw [perform_take hname]
          apply Outcome.taken hname
          apply event?_take hname
  | receive name =>
      cases hname : session.receivers.find? name with
      | none =>
          have hperform : session.perform (.receive name) = (.unknownName, session) := by
            rw [perform, hname]
          rw [hperform]
          apply Outcome.handles rfl rfl
          intro c r
          unfold event?
          rw [hperform]
      | some taker =>
          obtain ⟨reason, hperform⟩ := perform_receive hname
          rw [hperform]
          apply Outcome.taken hname
          apply event?_receive hname
  | drop name =>
      rw [perform]
      split
      · rename_i after hafter
        apply outcome_of_drop? hafter
      · exact .handles rfl rfl fun _ _ => rfl

/-! ### What becomes of a receiver -/

/-- What becomes of a receiver when something, or nothing, happens to its queue. -/
inductive Follows : Option (QueueEvent α) →
    Receiver (Numbered α) → Receiver (Numbered α) → Prop
  | idle (receiver : Receiver (Numbered α)) : Follows none receiver receiver
  | append (receiver : Receiver (Numbered α)) (value : α) (n : Nat) :
      Follows (some (.append value)) receiver (receiver.append ⟨value, n⟩)
  | takeHead (receiver : Receiver (Numbered α)) :
      Follows (some .takeHead) receiver
        { receiver with buffer := receiver.buffer.pop.2 }

/-- A receiver loses the head of its buffer when it takes a message, and nothing when there
is none or when another receiver takes one. -/
theorem Regular.follows_take (regular : session.Regular) {taker r : ReceiverId}
    {after : Receiver (Numbered α)} (h : (session.hub.take taker).2.receiver? r = some after) :
  ∃ before, session.hub.receiver? r = some before ∧
    Follows (if (session.hub.take taker).1.isSome ∧ taker = r then some .takeHead else none)
      before after
  := by
  rw [Hub.receiver?_take] at h
  by_cases hr : taker = r
  · subst hr
    rw [if_pos rfl] at h
    obtain ⟨before, hbefore, rfl⟩ := Option.map_eq_some_iff.mp h
    obtain ⟨messages, represents⟩ := regular.reachable.sound taker before hbefore
    refine ⟨before, hbefore, ?_⟩
    rw [regular.reachable.sound.take_eq_head?,
      Hub.waiting_of_receiver? hbefore represents]
    cases messages with
    | nil =>
        rw [represents.pop_nil]
        apply Follows.idle
    | cons message messages =>
        rw [if_pos ⟨rfl, rfl⟩]
        apply Follows.takeHead
  · rw [if_neg hr] at h
    refine ⟨after, h, ?_⟩
    rw [if_neg (hr ·.2)]
    apply Follows.idle

/-- The message that a receiver takes is the first that waits for it. -/
theorem Regular.message?_take (regular : session.Regular) {name : String} {r : ReceiverId}
    (h : session.receivers.find? name = some r) :
  (session.perform (.take name)).1.message? = (session.hub.waiting r).head?
  := by
  rw [perform_take h, ← regular.reachable.sound.take_eq_head?]
  cases (session.hub.take r).1 with
  | none => rfl
  | some message => rfl

theorem Regular.message?_receive (regular : session.Regular) {name : String}
    {r : ReceiverId} (h : session.receivers.find? name = some r) :
  (session.perform (.receive name)).1.message? = (session.hub.waiting r).head?
  := by
  obtain ⟨reason, hperform⟩ := perform_receive h
  rw [hperform, ← regular.reachable.sound.take_eq_head?]
  cases (session.hub.take r).1 with
  | none => rfl
  | some message => rfl

/-- The receiver that is replaced is gone. -/
theorem receiver?_holdReceiver (session : HubSession α) (name : String)
    (new r : ReceiverId) :
  (session.holdReceiver name new).hub.receiver? r =
    if session.receivers.find? name = some r then none else session.hub.receiver? r
  := by
  rw [holdReceiver]
  cases session.receivers.find? name with
  | none => rfl
  | some old =>
      dsimp only [Option.elim]
      rw [Hub.receiver?_unsubscribe]
      simp only [Option.some.injEq]

/-- The places are as they were when a receiver is held, in place of another. -/
theorem places_holdReceiver (session : HubSession α) (name : String) (r : ReceiverId) :
  session.hub.Places (session.holdReceiver name r).hub
  := by
  rw [holdReceiver]
  cases session.receivers.find? name with
  | none => apply Hub.Places.refl
  | some old => apply Hub.places_unsubscribe

/-- A receiver that is there after an action was there before, and what became of it is what
the action means for its queue; or the action has created it. -/
theorem Outcome.follows_or_creates {action : HubAction α} {next : HubSession α}
    (outcome : session.Outcome action next) (regular : session.Regular) {r : ReceiverId}
    {after : Receiver (Numbered α)} (h : next.hub.receiver? r = some after) :
  (∃ before, session.hub.receiver? r = some before ∧
    Follows (session.event? before.channel r action) before after) ∨
  ∃ c capacity, ∃ positive : 0 < capacity, session.Creates action r c capacity ∧
    after = ⟨c, RingBuffer.new capacity positive⟩
  := by
  cases outcome with
  | handles hub_eq names_eq event_eq =>
      left
      rw [Hub.receiver?, hub_eq] at h
      refine ⟨after, h, ?_⟩
      rw [event_eq]
      apply Follows.idle
  | @subscribed source name capacity c positive known =>
      rw [receiver?_holdReceiver] at h
      split at h
      · cases h
      · rw [Hub.receiver?_subscribe] at h
        split at h
        · rename_i hindex
          cases h
          right
          exact ⟨c, capacity, positive, ⟨⟨source, name, rfl, known⟩, positive, hindex⟩, rfl⟩
        · left
          exact ⟨after, h, .idle after⟩
  | @sent sender c value held =>
      left
      obtain ⟨before, hbefore, -⟩ := (Hub.places_sendCopies _ c _).exists_before h
      refine ⟨before, hbefore, ?_⟩
      rw [event?_send, held]
      by_cases hc : before.channel = c
      · subst hc
        obtain ⟨n, hn⟩ := regular.placed.receiver?_sendCopies hbefore (⟨value, ·⟩)
        rw [hn] at h
        cases h
        rw [if_pos rfl]
        apply Follows.append
      · rw [regular.placed.receiver?_sendCopies_of_ne hbefore hc] at h
        cases h
        rw [if_neg (fun heq => hc (Option.some.inj heq).symm)]
        apply Follows.idle
  | taken held event_eq =>
      left
      simp only [event_eq]
      apply regular.follows_take h
  | dropped held =>
      left
      rw [Hub.receiver?_unsubscribe] at h
      split at h
      · cases h
      · exact ⟨after, h, .idle after⟩

/-! ### Names of receivers -/

/-- A receiver that is not gone is held under one name, and one that is gone under none. -/
structure Held (session : HubSession α) : Prop where
  isLive_iff : ∀ r, session.hub.isLive r = true ↔
    ∃ name, session.receivers.find? name = some r
  unique : ∀ {name other r}, session.receivers.find? name = some r →
    session.receivers.find? other = some r → name = other

namespace Held

/-- The receivers stay held when their names are the same and no receiver came or went. -/
theorem congr (held : session.Held) {after : HubSession α}
    (hreceivers : after.receivers = session.receivers)
    (hlive : ∀ r, after.hub.isLive r = session.hub.isLive r) :
  after.Held
  := by
  constructor
  · intro r
    rw [hreceivers, hlive]
    apply held.isLive_iff
  · intro name other r
    rw [hreceivers]
    apply held.unique

/-- The next receiver is not held yet. -/
theorem find?_ne_next (held : session.Held) (name : String) :
  session.receivers.find? name ≠ some ⟨session.hub.receivers.length⟩
  := by
  intro hname
  obtain ⟨receiver, hreceiver⟩ := Hub.isLive_iff.mp ((held.isLive_iff _).mpr ⟨name, hname⟩)
  apply Nat.lt_irrefl _ (Hub.index_lt_of_receiver? hreceiver)

/-- A new receiver is held under its name, and the one that was held under it is gone. -/
theorem subscribe (held : session.Held) (c : ChannelId) (capacity : Nat)
    (positive : 0 < capacity) (name : String) :
  ({ session with hub := (session.hub.subscribe c capacity positive).2 }.holdReceiver
    name ⟨session.hub.receivers.length⟩).Held
  := by
  constructor
  · intro r
    rw [Hub.isLive, receiver?_holdReceiver, Hub.receiver?_subscribe, holdReceiver]
    simp only [Named.find?_insert_eq_some]
    by_cases hr : ⟨session.hub.receivers.length⟩ = r
    · subst hr
      rw [if_neg (held.find?_ne_next name), if_pos rfl]
      apply iff_of_true rfl
      exact ⟨name, .inl ⟨rfl, rfl⟩⟩
    · rw [if_neg (Ne.symm (ReceiverId.index_ne hr))]
      constructor
      · intro hlive
        split at hlive
        · cases hlive
        · rename_i hname
          obtain ⟨other, hother⟩ := (held.isLive_iff r).mp hlive
          refine ⟨other, .inr ⟨?_, hother⟩⟩
          rintro rfl
          apply hname hother
      · rintro ⟨other, ⟨-, hsame⟩ | ⟨hother, hheld⟩⟩
        · cases hr hsame
        · rw [if_neg]
          · apply (held.isLive_iff r).mpr ⟨other, hheld⟩
          · intro hname
            apply hother (held.unique hname hheld)
  · intro first second r hfirst hsecond
    rw [holdReceiver, Named.find?_insert_eq_some] at hfirst hsecond
    obtain ⟨rfl, rfl⟩ | ⟨-, hfirst⟩ := hfirst
    · obtain ⟨rfl, -⟩ | ⟨-, hsecond⟩ := hsecond
      · rfl
      · cases held.find?_ne_next second hsecond
    · obtain ⟨-, rfl⟩ | ⟨-, hsecond⟩ := hsecond
      · cases held.find?_ne_next first hfirst
      · apply held.unique hfirst hsecond

/-- A receiver that is dropped is held under no name any more. -/
theorem unsubscribe (held : session.Held) {name : String} {r : ReceiverId}
    (h : session.receivers.find? name = some r) :
  Held { session with
    hub := session.hub.unsubscribe r
    receivers := session.receivers.erase name }
  := by
  constructor
  · intro other
    rw [Hub.isLive, Hub.receiver?_unsubscribe]
    simp only [Named.find?_erase_eq_some]
    split
    · rename_i hr
      subst hr
      apply iff_of_false Bool.false_ne_true
      rintro ⟨second, hne, hsecond⟩
      apply hne (held.unique h hsecond)
    · rename_i hr
      apply (held.isLive_iff other).trans
      constructor
      · rintro ⟨second, hsecond⟩
        refine ⟨second, ?_, hsecond⟩
        rintro rfl
        apply hr (Option.some.inj (h.symm.trans hsecond))
      · rintro ⟨second, -, hsecond⟩
        exact ⟨second, hsecond⟩
  · intro first second other hfirst hsecond
    rw [Named.find?_erase_eq_some] at hfirst hsecond
    apply held.unique hfirst.2 hsecond.2

/-- The receivers stay held by every action. -/
theorem of_outcome (held : session.Held) (regular : session.Regular)
    {action : HubAction α} {next : HubSession α} (outcome : session.Outcome action next) :
  next.Held
  := by
  cases outcome with
  | handles hub_eq names_eq event_eq =>
      apply held.congr names_eq
      intro r
      rw [Hub.isLive, Hub.receiver?, hub_eq, Hub.isLive, Hub.receiver?]
  | subscribed positive known => apply held.subscribe
  | @sent sender c value hsender =>
      apply held.congr
      · rfl
      · apply regular.placed.isLive_sendCopies
  | @taken _ _ taker hname event_eq =>
      apply held.congr
      · rfl
      · apply session.hub.isLive_take taker
  | dropped hname => apply held.unsubscribe hname

end Held

/-- In every session that came about by actions the receivers are held. -/
theorem held_performAll (actions : List (HubAction α)) :
  (performAll {} actions).Held
  := by
  induction actions using List.reverseRecOn with
  | nil =>
      constructor
      · intro r
        apply iff_of_false
        · intro hlive
          obtain ⟨receiver, hreceiver⟩ := Hub.isLive_iff.mp hlive
          cases Hub.index_lt_of_receiver? hreceiver
        · rintro ⟨name, hname⟩
          cases hname
      · intro name other r h
        cases h
  | append_singleton actions action ih =>
      rw [performAll_append, performAll_singleton]
      apply ih.of_outcome (regular_performAll actions) (outcome_perform _ action)

/-! ### Streams -/

/-- What waits for a receiver is the list that its buffer represents. -/
theorem Buffers.of_represents {r : ReceiverId} {receiver : Receiver (Numbered α)}
    {messages : List (Numbered α)} (h : session.hub.receiver? r = some receiver)
    (represents : receiver.buffer.Represents messages) :
  session.Buffers r receiver.channel receiver.buffer.capacity (messages.map Numbered.value)
  := by
  constructor
  · rw [h, Option.map_some]
  · rw [h, Option.map_some]
  · rw [Hub.waiting_of_receiver? h represents]

/-- The buffer of a receiver changes as its queue does. -/
theorem Follows.represents {event : Option (QueueEvent α)}
    {before after : Receiver (Numbered α)} (follows : Follows event before after)
    {messages : List (Numbered α)} (represents : before.buffer.Represents messages) :
  after.channel = before.channel ∧ after.buffer.capacity = before.buffer.capacity ∧
    ∃ others, after.buffer.Represents others ∧ others.map Numbered.value =
      event.toList.foldl (QueueEvent.apply before.buffer.capacity)
        (messages.map Numbered.value)
  := by
  cases follows with
  | idle => exact ⟨rfl, rfl, messages, represents, rfl⟩
  | append _ value n =>
      refine ⟨rfl, before.buffer.capacity_push _, _, represents.push ⟨value, n⟩, ?_⟩
      apply map_enqueue
  | takeHead =>
      refine ⟨rfl, before.buffer.capacity_pop, _, represents.pop.2, ?_⟩
      apply List.map_tail

/-- What waits for a receiver changes as its queue does. -/
theorem Buffers.follows {after : HubSession α} {r : ReceiverId} {c : ChannelId}
    {capacity : Nat} {values : List α} (buffers : session.Buffers r c capacity values)
    (sound : session.hub.Sound) {receiver receiverAfter : Receiver (Numbered α)}
    (hbefore : session.hub.receiver? r = some receiver)
    (hafter : after.hub.receiver? r = some receiverAfter) {event : Option (QueueEvent α)}
    (follows : Follows event receiver receiverAfter) :
  after.Buffers r c capacity (event.toList.foldl (QueueEvent.apply capacity) values)
  := by
  obtain ⟨messages, represents⟩ := sound r receiver hbefore
  obtain ⟨hchannel, hcapacity, hwaiting⟩ := buffers
  rw [hbefore, Option.map_some, Option.some.injEq] at hchannel hcapacity
  rw [Hub.waiting_of_receiver? hbefore represents] at hwaiting
  obtain ⟨hsameChannel, hsameCapacity, others, hothers, hvalues⟩ :=
    follows.represents represents
  have hnext := Buffers.of_represents hafter hothers
  rw [hsameChannel, hchannel, hsameCapacity, hvalues, hcapacity, hwaiting] at hnext
  apply hnext

/-- A receiver that is held under a name receives the first message that waits for it. -/
theorem Buffers.received_eq {r : ReceiverId} {c : ChannelId} {capacity : Nat}
    {values : List α} (buffers : session.Buffers r c capacity values)
    (regular : session.Regular) {name : String}
    (h : session.receivers.find? name = some r) :
  (session.perform (.take name)).1.message?.map Numbered.value = values.head? ∧
    (session.perform (.receive name)).1.message?.map Numbered.value = values.head?
  := by
  rw [regular.message?_take h, regular.message?_receive h, ← buffers.waiting_eq,
    List.head?_map]
  exact ⟨rfl, rfl⟩

/-- Where what waits for a receiver comes from: an action of a run has created the receiver,
and what the actions since then mean for its queue, which was empty, has happened to it. -/
theorem exists_creates (actions : List (HubAction α)) {r : ReceiverId}
    (live : (performAll {} actions).hub.isLive r = true) :
  ∃ before action after c capacity,
    actions = before ++ action :: after ∧
    (performAll {} before).Creates action r c capacity ∧
    (performAll {} actions).Buffers r c capacity
      (((performAll {} (before ++ [action])).events c r after).foldl
        (QueueEvent.apply capacity) [])
  := by
  -- The last action is split off: what is there after it was there before, or is new.
  induction actions using List.reverseRecOn with
  | nil =>
      obtain ⟨receiver, hreceiver⟩ := Hub.isLive_iff.mp live
      cases Hub.index_lt_of_receiver? hreceiver
  | append_singleton actions action ih =>
      have regular := regular_performAll actions
      have hlast : performAll {} (actions ++ [action]) =
          ((performAll {} actions).perform action).2 := performAll_append _ _ _
      obtain ⟨receiver, hreceiver⟩ := Hub.isLive_iff.mp live
      have hstep := hreceiver
      rw [hlast] at hstep
      obtain ⟨old, hold, follows⟩ | ⟨c, capacity, positive, creates, rfl⟩ :=
        (outcome_perform _ action).follows_or_creates regular hstep
      · obtain ⟨before, created, after, c, capacity, rfl, creates, buffers⟩ :=
          ih (Hub.isLive_iff.mpr ⟨old, hold⟩)
        refine ⟨before, created, after ++ [action], c, capacity, ?_, creates, ?_⟩
        · rw [List.append_assoc, List.cons_append]
        · have hchannel := buffers.channel_eq
          rw [hold, Option.map_some, Option.some.injEq] at hchannel
          subst hchannel
          rw [events_concat, List.foldl_append, ← performAll_append,
            ← List.append_cons before created after]
          apply buffers.follows regular.reachable.sound hold hreceiver follows
      · refine ⟨actions, action, [], c, capacity, rfl, creates, ?_⟩
        have hnew := Buffers.of_represents hreceiver (RingBuffer.represents_new _ positive)
        rw [RingBuffer.capacity_new] at hnew
        apply hnew

/-- What waits for a receiver that is not gone is the content of a queue of its own, to which
happened what the actions since its creation mean for it.  The receiver is held under a name,
and what it receives next is the head of its queue. -/
theorem buffers_of_isLive (actions : List (HubAction α)) (r : ReceiverId)
    (live : (performAll {} actions).hub.isLive r = true) :
  ∃ before action after c capacity values,
    actions = before ++ action :: after ∧
    (performAll {} before).Creates action r c capacity ∧
    values = ((performAll {} (before ++ [action])).events c r after).foldl
      (QueueEvent.apply capacity) [] ∧
    (performAll {} actions).Buffers r c capacity values ∧
    (∃ name, (performAll {} actions).receivers.find? name = some r) ∧
    ∀ name, (performAll {} actions).receivers.find? name = some r →
      ((performAll {} actions).perform (.take name)).1.message?.map Numbered.value =
          values.head? ∧
        ((performAll {} actions).perform (.receive name)).1.message?.map Numbered.value =
          values.head?
  := by
  obtain ⟨before, action, after, c, capacity, hactions, creates, buffers⟩ :=
    exists_creates actions live
  have held := ((held_performAll actions).isLive_iff r).mp live
  refine ⟨before, action, after, c, capacity, _, hactions, creates, rfl, buffers, held, ?_⟩
  intro name hname
  apply buffers.received_eq (regular_performAll actions) hname

/-- A receiver that gets the slot of one that is gone, and loses a message that it is too
slow for. -/
theorem buffers_of_isLive_reuse :
  let actions : List (HubAction Nat) :=
    [.create "channel", .sender "channel" "sender", .receiver "channel" "first" 3,
      .receiver "channel" "second" 1, .send "sender" 1, .drop "first",
      .receiver "sender" "third" 2, .send "sender" 2, .send "sender" 3, .take "third",
      .take "second", .send "sender" 4, .send "sender" 5]
  (performAll {} actions).hub.isLive ⟨2⟩ = true ∧
    ∃ before action after c capacity values,
      actions = before ++ action :: after ∧
      (performAll {} before).Creates action ⟨2⟩ c capacity ∧
      values = ((performAll {} (before ++ [action])).events c ⟨2⟩ after).foldl
        (QueueEvent.apply capacity) [] ∧
      (performAll {} actions).Buffers ⟨2⟩ c capacity values ∧
      (∃ name, (performAll {} actions).receivers.find? name = some ⟨2⟩) ∧
      ∀ name, (performAll {} actions).receivers.find? name = some ⟨2⟩ →
        ((performAll {} actions).perform (.take name)).1.message?.map Numbered.value =
            values.head? ∧
          ((performAll {} actions).perform (.receive name)).1.message?.map Numbered.value =
            values.head?
  := by
  intro actions
  have live : (performAll {} actions).hub.isLive ⟨2⟩ = true := by decide
  exact ⟨live, buffers_of_isLive actions ⟨2⟩ live⟩

end HubSession

end FlightBus

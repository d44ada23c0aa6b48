import FlightBus.Bus.Demultiplexer
import FlightBus.Proofs.Bus.Slots
import Mathlib.Data.List.DropRight

/-!
# Receivers as queues

A receiver of a hub is a queue of fixed capacity.  Sending a message on its channel appends
the message, taking one takes the head, and what happens to other receivers and on other
channels does not matter.
-/

namespace FlightBus

/-! ### The last elements of a list -/

section Last

variable {α β : Type} {n : Nat} {values : List α}

/-- The last elements of a list are no more than were asked for. -/
theorem length_rtake_le (n : Nat) (values : List α) :
  (values.rtake n).length ≤ n
  := by
  rw [List.rtake, List.length_drop]
  omega

/-- A list that is short enough consists of its last elements. -/
theorem rtake_of_length_le (h : values.length ≤ n) :
  values.rtake n = values
  := by
  rw [List.rtake, Nat.sub_eq_zero_of_le h, List.drop_zero]

theorem map_rtake (f : α → β) (n : Nat) (values : List α) :
  (values.rtake n).map f = (values.map f).rtake n
  := by
  rw [List.rtake, List.rtake, List.map_drop, List.length_map]

/-- What more elements displace can be left out before they are appended. -/
theorem rtake_append_rtake (n : Nat) (values more : List α) :
  (values.rtake n ++ more).rtake n = (values ++ more).rtake n
  := by
  simp only [List.rtake]
  rw [← List.drop_append_of_le_length (Nat.sub_le _ _), List.drop_drop]
  congr 1
  simp only [List.length_drop, List.length_append]
  omega

/-- A queue keeps the element that is appended and the last before it. -/
theorem enqueue_eq_rtake (positive : 0 < n) (h : values.length ≤ n) (value : α) :
  enqueue n values value = (values ++ [value]).rtake n
  := by
  obtain ⟨k, rfl⟩ := Nat.exists_eq_succ_of_ne_zero (Nat.ne_of_gt positive)
  rw [List.rtake_concat_succ, enqueue]
  split
  · rename_i room
    rw [rtake_of_length_le (Nat.le_of_lt_succ room)]
  · rename_i hfull
    have hlength : values.length - k = 1 := by omega
    rw [List.rtake, hlength, List.drop_one]

/-- Of elements that are appended one after the other, a queue keeps the last. -/
theorem foldl_enqueue (positive : 0 < n) (new : List α) (h : values.length ≤ n) :
  new.foldl (enqueue n) values = (values ++ new).rtake n
  := by
  induction new generalizing values with
  | nil =>
      rw [List.append_nil]
      symm
      apply rtake_of_length_le h
  | cons value new ih =>
      have hle : (enqueue n values value).length ≤ n := by
        rw [enqueue_eq_rtake positive h]
        apply length_rtake_le
      rw [List.foldl_cons, ih hle, enqueue_eq_rtake positive h, rtake_append_rtake,
        List.append_assoc, List.singleton_append]

end Last

namespace Hub

variable {α : Type} {hub after : Hub α} {r other : ReceiverId} {c : ChannelId} {n : Nat}
  {values : List α}

/-- A receiver of a channel is a queue of a capacity, with the given content. -/
def Queues (hub : Hub α) (r : ReceiverId) (c : ChannelId) (n : Nat) (values : List α) : Prop :=
  ∃ receiver, hub.receiver? r = some receiver ∧ receiver.channel = c ∧
    receiver.buffer.capacity = n ∧ receiver.buffer.Represents values

/-! ### Taking all messages -/

/-- Taking all messages of a receiver empties its buffer, and changes nothing for the other
receivers. -/
theorem receiver?_takeAll (hub : Hub α) (r other : ReceiverId) :
  (hub.takeAll r).2.receiver? other =
    if r = other then
      (hub.receiver? other).map (fun receiver =>
        { receiver with buffer := receiver.buffer.popAll.2 })
    else hub.receiver? other
  := by
  apply receiver?_of_setBuffer (fun buffer => buffer.popAll.2)
  · intro hgone
    rw [takeAll, hgone]
  · intro receiver hreceiver
    rw [takeAll, hreceiver]

theorem places_takeAll (hub : Hub α) (r : ReceiverId) :
  hub.Places (hub.takeAll r).2
  := by
  rw [takeAll]
  split
  · apply Places.refl
  · apply places_setBuffer

/-! ### Operations -/

namespace Queues

/-- The content of a queue is what waits for the receiver. -/
theorem waiting_eq (queues : hub.Queues r c n values) :
  hub.waiting r = values
  := by
  obtain ⟨receiver, hreceiver, -, -, represents⟩ := queues
  apply waiting_of_receiver? hreceiver represents

/-- A queue has no more messages than its capacity allows. -/
theorem length_le (queues : hub.Queues r c n values) :
  values.length ≤ n
  := by
  obtain ⟨receiver, -, -, hcapacity, represents⟩ := queues
  rw [← hcapacity]
  apply represents.length_le

/-- A queue depends on nothing but the state of its receiver. -/
theorem of_receiver?_eq (queues : hub.Queues r c n values)
    (h : after.receiver? r = hub.receiver? r) :
  after.Queues r c n values
  := by
  obtain ⟨receiver, hreceiver, hqueue⟩ := queues
  exact ⟨receiver, h.trans hreceiver, hqueue⟩

/-- A message that is sent on the channel of a receiver is appended. -/
theorem send (queues : hub.Queues r c n values) (placed : hub.Placed) (value : α) :
  (hub.send c value).Queues r c n (enqueue n values value)
  := by
  obtain ⟨receiver, hreceiver, rfl, rfl, represents⟩ := queues
  obtain ⟨-, hafter⟩ := placed.receiver?_sendCopies hreceiver (fun _ => value)
  exact ⟨_, hafter, rfl, receiver.buffer.capacity_push value, represents.push value⟩

/-- A message that is sent on another channel does not matter to a queue. -/
theorem send_of_ne (queues : hub.Queues r c n values) (placed : hub.Placed) {d : ChannelId}
    (h : c ≠ d) (value : α) :
  (hub.send d value).Queues r c n values
  := by
  obtain ⟨receiver, hreceiver, rfl, hqueue⟩ := queues
  have hafter := placed.receiver?_sendCopies_of_ne hreceiver h (fun _ => value)
  exact ⟨receiver, hafter, rfl, hqueue⟩

/-- The message that a receiver takes is the head. -/
theorem take (queues : hub.Queues r c n values) :
  (hub.take r).1 = values.head? ∧ (hub.take r).2.Queues r c n values.tail
  := by
  obtain ⟨receiver, hreceiver, rfl, rfl, represents⟩ := queues
  have hafter := hub.receiver?_take r r
  rw [if_pos rfl, hreceiver] at hafter
  constructor
  · rw [Hub.take, hreceiver]
    apply represents.pop.1
  · exact ⟨_, hafter, rfl, receiver.buffer.capacity_pop, represents.pop.2⟩

/-- What another receiver takes does not matter to a queue. -/
theorem take_of_ne (queues : hub.Queues r c n values) (h : other ≠ r) :
  (hub.take other).2.Queues r c n values
  := by
  apply queues.of_receiver?_eq
  rw [receiver?_take, if_neg h]

/-- A receiver takes all messages at once. -/
theorem takeAll (queues : hub.Queues r c n values) :
  (hub.takeAll r).2.Queues r c n []
  := by
  obtain ⟨receiver, hreceiver, rfl, rfl, represents⟩ := queues
  have hafter := hub.receiver?_takeAll r r
  rw [if_pos rfl, hreceiver] at hafter
  exact ⟨_, hafter, rfl, RingBuffer.capacity_popUpTo _ _, represents.popAll_eq.2⟩

theorem takeAll_of_ne (queues : hub.Queues r c n values) (h : other ≠ r) :
  (hub.takeAll other).2.Queues r c n values
  := by
  apply queues.of_receiver?_eq
  rw [receiver?_takeAll, if_neg h]

end Queues

/-- A queue has room for a message. -/
theorem Queues.capacity_pos (queues : hub.Queues r c n values) :
  0 < n
  := by
  obtain ⟨receiver, -, -, rfl, represents⟩ := queues
  apply Nat.zero_lt_of_lt represents.head_lt

/-- In a sound hub, a receiver that is not gone is a queue of the messages that wait for it. -/
theorem Sound.queues (sound : hub.Sound) {receiver : Receiver α}
    (h : hub.receiver? r = some receiver) :
  hub.Queues r receiver.channel receiver.buffer.capacity (hub.waiting r)
  := by
  obtain ⟨values, represents⟩ := sound r receiver h
  rw [waiting_of_receiver? h represents]
  exact ⟨receiver, h, rfl, rfl, represents⟩

/-! ### Deliveries -/

/-- The messages of deliveries on a channel, in order. -/
def messagesOn (c : ChannelId) (deliveries : List (ChannelId × α)) : List α :=
  (deliveries.filter (·.1 = c)).map Prod.snd

theorem messagesOn_cons_self (c : ChannelId) (message : α) (deliveries : List (ChannelId × α)) :
  messagesOn c ((c, message) :: deliveries) = message :: messagesOn c deliveries
  := by
  rw [messagesOn, List.filter_cons, if_pos (by simp), List.map_cons, messagesOn]

theorem messagesOn_cons_of_ne {d : ChannelId} (h : d ≠ c) (message : α)
    (deliveries : List (ChannelId × α)) :
  messagesOn c ((d, message) :: deliveries) = messagesOn c deliveries
  := by
  rw [messagesOn, List.filter_cons_of_neg (by simpa using h), messagesOn]

/-- Of messages that are all on one channel, all are on this channel and none on another. -/
theorem messagesOn_map (c d : ChannelId) (messages : List α) :
  messagesOn c (messages.map (d, ·)) = if d = c then messages else []
  := by
  induction messages with
  | nil => exact (ite_self _).symm
  | cons message messages ih =>
      rw [List.map_cons]
      by_cases hd : d = c
      · subst hd
        rw [messagesOn_cons_self, ih, if_pos rfl, if_pos rfl]
      · rw [messagesOn_cons_of_ne hd, ih, if_neg hd, if_neg hd]

section Deliver

variable {D : Dialect} {hub : Hub D.Message} {values : List D.Message}

/-- Carrying out deliveries keeps what sending one message keeps. -/
theorem deliver_induction {P : Hub D.Message → Prop}
    (send : ∀ hub c message, P hub → P (hub.send c message)) (h : P hub)
    (actions : List (Action D)) :
  P (hub.deliver actions)
  := by
  rw [deliver]
  induction actions.filterMap Action.delivery? generalizing hub with
  | nil => apply h
  | cons delivery deliveries ih => apply ih (send hub delivery.1 delivery.2 h)

theorem Reachable.deliver (reachable : hub.Reachable) (actions : List (Action D)) :
  (hub.deliver actions).Reachable
  := by
  apply deliver_induction _ reachable
  intro hub c message reachable
  apply reachable.sendCopies

/-- Carrying out deliveries leaves the places as they are. -/
theorem places_deliver (hub : Hub D.Message) (actions : List (Action D)) :
  hub.Places (hub.deliver actions)
  := by
  apply deliver_induction _ (Places.refl hub)
  intro after c message places
  apply places.trans (places_sendCopies after c _)

/-- Carrying out deliveries appends to a queue the messages that are delivered on its channel,
in order, of which the last remain. -/
theorem Queues.deliver (queues : hub.Queues r c n values) (placed : hub.Placed)
    (actions : List (Action D)) :
  (hub.deliver actions).Queues r c n
    ((values ++ messagesOn c (actions.filterMap Action.delivery?)).rtake n)
  := by
  rw [← foldl_enqueue queues.capacity_pos _ queues.length_le, Hub.deliver]
  induction actions.filterMap Action.delivery? generalizing hub values with
  | nil => apply queues
  | cons delivery deliveries ih =>
      obtain ⟨d, message⟩ := delivery
      have hplaced := placed.of_places (places_sendCopies hub d (fun _ => message))
      by_cases hd : d = c
      · subst hd
        rw [messagesOn_cons_self]
        apply ih (queues.send placed message) hplaced
      · rw [messagesOn_cons_of_ne hd]
        apply ih (queues.send_of_ne placed (Ne.symm hd) message) hplaced

/-- What waits for a receiver of a hub after deliveries were carried out: the last of what
waited before and of the messages that were delivered on its channel. -/
theorem waiting_deliver (reachable : hub.Reachable) (placed : hub.Placed)
    {receiver : Receiver D.Message} (h : hub.receiver? r = some receiver)
    (actions : List (Action D)) :
  (hub.deliver actions).waiting r =
    (hub.waiting r ++ messagesOn receiver.channel (actions.filterMap Action.delivery?)).rtake
      receiver.buffer.capacity
  := ((reachable.sound.queues h).deliver placed actions).waiting_eq

end Deliver

end Hub

end FlightBus

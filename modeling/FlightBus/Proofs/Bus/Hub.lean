import FlightBus.Bus.Hub
import FlightBus.Proofs.Bus.RingBuffer

/-!
# Buffers of receivers

In a hub that came about by its operations, every buffer represents a list, the messages
that wait for the receiver.  Taking all messages of a receiver gives this list, and nothing
changes for the other receivers.
-/

namespace FlightBus

theorem ReceiverId.index_ne {r other : ReceiverId} (h : r ≠ other) :
  r.index ≠ other.index
  := by
  intro hindex
  apply h
  cases r
  cases other
  cases hindex
  rfl

namespace Hub

variable {α : Type} {hub : Hub α}

/-- The messages that wait for a receiver, the oldest first. -/
def waiting (hub : Hub α) (r : ReceiverId) : List α :=
  match hub.receiver? r with
  | none => []
  | some receiver => receiver.buffer.toList

/-- The hubs that come about by the operations on hubs. -/
inductive Reachable : Hub α → Prop
  | empty : Reachable {}
  | openChannel {hub : Hub α} : Reachable hub → Reachable hub.openChannel.2
  | retain {hub : Hub α} (c : ChannelId) : Reachable hub → Reachable (hub.retain c)
  | release {hub : Hub α} (c : ChannelId) : Reachable hub → Reachable (hub.release c)
  | subscribe {hub : Hub α} (c : ChannelId) (n : Nat) (positive : 0 < n) :
      Reachable hub → Reachable (hub.subscribe c n positive).2
  | unsubscribe {hub : Hub α} (r : ReceiverId) :
      Reachable hub → Reachable (hub.unsubscribe r)
  | sendCopies {hub : Hub α} (c : ChannelId) (copy : Nat → α) :
      Reachable hub → Reachable (hub.sendCopies c copy)
  | take {hub : Hub α} (r : ReceiverId) : Reachable hub → Reachable (hub.take r).2
  | takeAll {hub : Hub α} (r : ReceiverId) : Reachable hub → Reachable (hub.takeAll r).2

/-- Every buffer represents a list. -/
def Sound (hub : Hub α) : Prop :=
  ∀ r receiver, hub.receiver? r = some receiver →
    ∃ values, receiver.buffer.Represents values

/-! ### Single buffers -/

theorem receiver?_setBuffer (hub : Hub α) (r other : ReceiverId) (buffer : RingBuffer α) :
  (hub.setBuffer r buffer).receiver? other =
    if r = other then (hub.receiver? other).map ({ · with buffer := buffer })
    else hub.receiver? other
  := by
  rw [setBuffer, receiver?, List.getElem?_modify, receiver?]
  by_cases hr : r = other
  · subst hr
    simp only [if_true]
    cases hub.receivers[r.index]? with
    | none => rfl
    | some receiver => rfl
  · have hindex := ReceiverId.index_ne hr
    simp only [hr, hindex, if_false]
    apply congrArg Option.join
    apply Option.map_id'

/-- A hub stays sound when a buffer is replaced by one that represents a list. -/
theorem Sound.setBuffer (sound : hub.Sound) (r : ReceiverId) {buffer : RingBuffer α}
    {values : List α} (represents : buffer.Represents values) :
  (hub.setBuffer r buffer).Sound
  := by
  intro other receiver h
  rw [receiver?_setBuffer] at h
  split at h
  · obtain ⟨before, -, rfl⟩ := Option.map_eq_some_iff.mp h
    exact ⟨values, represents⟩
  · apply sound other receiver h

/-- What waits for a receiver is the list that its buffer represents. -/
theorem waiting_of_receiver? {r : ReceiverId} {receiver : Receiver α} {values : List α}
    (h : hub.receiver? r = some receiver) (represents : receiver.buffer.Represents values) :
  hub.waiting r = values
  := by
  rw [waiting, h]
  apply represents.toList_eq

/-- Replacing a buffer changes nothing for the other receivers. -/
theorem waiting_setBuffer_of_ne {r other : ReceiverId} (buffer : RingBuffer α)
    (h : r ≠ other) :
  (hub.setBuffer r buffer).waiting other = hub.waiting other
  := by
  rw [waiting, receiver?_setBuffer, if_neg h, waiting]

/-! ### Operations -/

/-- A hub stays sound when a message is appended to a buffer. -/
theorem Sound.deposit (sound : hub.Sound) (r : ReceiverId) (value : α) :
  (hub.deposit r value).Sound
  := by
  rw [Hub.deposit]
  split
  · apply sound
  · rename_i receiver hreceiver
    obtain ⟨values, represents⟩ := sound r receiver hreceiver
    apply sound.setBuffer r (represents.push value)

/-- A hub stays sound when a message is sent. -/
theorem Sound.sendCopies (sound : hub.Sound) (c : ChannelId) (copy : Nat → α) :
  (hub.sendCopies c copy).Sound
  := by
  rw [Hub.sendCopies]
  generalize (hub.liveReceivers c).zipIdx 1 = copies
  induction copies generalizing hub with
  | nil => apply sound
  | cons first copies ih =>
      rw [List.foldl_cons]
      apply ih
      apply sound.deposit

/-- A hub stays sound when a message is taken. -/
theorem Sound.take (sound : hub.Sound) (r : ReceiverId) :
  (hub.take r).2.Sound
  := by
  rw [Hub.take]
  split
  · apply sound
  · rename_i receiver hreceiver
    obtain ⟨values, represents⟩ := sound r receiver hreceiver
    apply sound.setBuffer r represents.pop.2

/-- Taking all messages of a receiver gives those that wait, and none waits afterwards. -/
theorem Sound.takeAll (sound : hub.Sound) (r : ReceiverId) :
  (hub.takeAll r).1 = hub.waiting r ∧ (hub.takeAll r).2.Sound ∧
    ∀ other, (hub.takeAll r).2.waiting other = if r = other then [] else hub.waiting other
  := by
  rw [Hub.takeAll]
  split
  · rename_i hgone
    have hnone : hub.waiting r = [] := by
      rw [waiting, hgone]
    refine ⟨hnone.symm, sound, ?_⟩
    intro other
    split
    · rename_i hr
      subst hr
      apply hnone
    · rfl
  · rename_i receiver hreceiver
    obtain ⟨values, represents⟩ := sound r receiver hreceiver
    obtain ⟨hvalues, hnil⟩ := represents.popAll_eq
    refine ⟨?_, sound.setBuffer r hnil, ?_⟩
    · rw [waiting_of_receiver? hreceiver represents]
      apply hvalues
    · intro other
      by_cases hr : r = other
      · subst hr
        rw [if_pos rfl]
        have hafter : (hub.setBuffer r receiver.buffer.popAll.2).receiver? r =
            some { receiver with buffer := receiver.buffer.popAll.2 } := by
          rw [receiver?_setBuffer, if_pos rfl, hreceiver]
          rfl
        apply waiting_of_receiver? hafter hnil
      · rw [if_neg hr]
        apply waiting_setBuffer_of_ne _ hr

/-- A new receiver starts with an empty buffer, and nothing changes for the others. -/
theorem receiver?_subscribe (hub : Hub α) (c : ChannelId) (n : Nat) (positive : 0 < n)
    (r : ReceiverId) :
  (hub.subscribe c n positive).2.receiver? r =
    if r.index = hub.receivers.length then some ⟨c, RingBuffer.new n positive⟩
    else hub.receiver? r
  := by
  change ((hub.receivers ++ [some _])[r.index]?).join = _
  split
  · rename_i hindex
    rw [hindex, List.getElem?_concat_length]
    rfl
  · rename_i hindex
    rcases Nat.lt_or_gt_of_ne hindex with hlt | hgt
    · rw [List.getElem?_append_left hlt]
      rfl
    · rw [receiver?, List.getElem?_eq_none (Nat.le_of_lt hgt), List.getElem?_eq_none]
      rw [List.length_append]
      apply hgt

/-- A receiver that is dropped is gone, and nothing changes for the others. -/
theorem receiver?_unsubscribe (hub : Hub α) (r other : ReceiverId) :
  (hub.unsubscribe r).receiver? other = if r = other then none else hub.receiver? other
  := by
  change ((hub.receivers.set r.index none)[other.index]?).join = _
  by_cases hr : r = other
  · subst hr
    rw [if_pos rfl, List.getElem?_set_self']
    cases hub.receivers[r.index]? with
    | none => rfl
    | some receiver => rfl
  · rw [if_neg hr, List.getElem?_set_ne (ReceiverId.index_ne hr)]
    rfl

/-- Every hub that came about by its operations is sound. -/
theorem Reachable.sound (reachable : hub.Reachable) :
  hub.Sound
  := by
  induction reachable with
  | empty =>
      intro r receiver h
      cases h
  | openChannel _ ih => apply ih
  | retain c _ ih => apply ih
  | release c _ ih => apply ih
  | subscribe c n positive _ ih =>
      intro r receiver h
      rw [receiver?_subscribe] at h
      split at h
      · cases h
        exact ⟨[], RingBuffer.represents_new n positive⟩
      · apply ih r receiver h
  | unsubscribe r _ ih =>
      intro other receiver h
      rw [receiver?_unsubscribe] at h
      split at h
      · cases h
      · apply ih other receiver h
  | sendCopies c copy _ ih => apply ih.sendCopies
  | take r _ ih => apply ih.take
  | takeAll r _ ih => apply (ih.takeAll r).2.1

end Hub

end FlightBus

import FlightBus.Proofs.Bus.Hub
import Mathlib.Tactic.Use

/-!
# Slots of channels

A channel keeps its receivers in slots, and a new receiver gets a slot whose receiver is
gone.  So a receiver that is not gone has exactly one slot, in its channel, which no other
receiver takes from it.  A message that goes through the slots of a channel is therefore
appended once to the buffer of each receiver of the channel, and to no other buffer.
-/

namespace FlightBus

/-- Channels that are not the same have different numbers. -/
theorem ChannelId.index_ne {c other : ChannelId} (h : c ≠ other) :
  c.index ≠ other.index
  := by
  intro hindex
  apply h
  cases c
  cases other
  cases hindex
  rfl

/-- A receiver with a message appended to its buffer. -/
def Receiver.append {α : Type} (receiver : Receiver α) (value : α) : Receiver α :=
  { receiver with buffer := (receiver.buffer.push value).2 }

namespace Hub

variable {α : Type} {hub : Hub α}

/-- The slots of a channel. -/
def slots (hub : Hub α) (c : ChannelId) : List ReceiverId :=
  (hub.channel? c).elim [] Channel.slots

/-- A receiver that is not gone has exactly one slot, in its channel, and the slots are those
of receivers that came about. -/
structure Placed (hub : Hub α) : Prop where
  created : ∀ c, ∀ r ∈ hub.slots c, r.index < hub.receivers.length
  count_eq : ∀ {r receiver}, hub.receiver? r = some receiver →
    ∀ c, (hub.slots c).count r = if receiver.channel = c then 1 else 0

/-- The live receivers of a channel are those in its slots that are not gone. -/
theorem liveReceivers_eq (hub : Hub α) (c : ChannelId) :
  hub.liveReceivers c = (hub.slots c).filter hub.isLive
  := by
  rw [liveReceivers, slots]
  cases hub.channel? c with
  | none => rfl
  | some channel => rfl

/-- A receiver is not gone exactly when the hub has a state for it. -/
theorem isLive_iff {r : ReceiverId} :
  hub.isLive r = true ↔ ∃ receiver, hub.receiver? r = some receiver
  := Option.isSome_iff_exists

/-- A receiver that is not gone is one of those that came about. -/
theorem index_lt_of_receiver? {r : ReceiverId} {receiver : Receiver α}
    (h : hub.receiver? r = some receiver) :
  r.index < hub.receivers.length
  := by
  have hfound := Option.join_eq_some_iff.mp h
  apply (List.getElem?_eq_some_iff.mp hfound).1

theorem placed_empty :
  ({} : Hub α).Placed
  := by
  constructor
  · intro c r h
    cases h
  · intro r receiver h
    cases index_lt_of_receiver? h

/-! ### Taking a slot -/

section TakeSlot

variable {live : ReceiverId → Bool} {new r : ReceiverId} {row : List ReceiverId}

/-- In the slots after a new receiver got one there are only the new receiver and receivers that
were there before. -/
theorem mem_takeSlot (h : r ∈ takeSlot live new row) :
  r = new ∨ r ∈ row
  := by
  induction row with
  | nil =>
      left
      apply List.mem_singleton.mp h
  | cons slot row ih =>
      rw [takeSlot] at h
      split at h
      · rcases List.mem_cons.mp h with rfl | h
        · right
          apply List.mem_cons_self
        · apply (ih h).imp_right
          apply List.mem_cons_of_mem
      · apply (List.mem_cons.mp h).imp_right
        apply List.mem_cons_of_mem

/-- The new receiver gets one slot. -/
theorem count_takeSlot_self (h : new ∉ row) :
  (takeSlot live new row).count new = 1
  := by
  induction row with
  | nil => apply List.count_singleton_self
  | cons slot row ih =>
      obtain ⟨hslot, hrow⟩ := not_or.mp (fun hmem => h (List.mem_cons.mpr hmem))
      rw [takeSlot]
      split
      · rw [List.count_cons_of_ne (Ne.symm hslot), ih hrow]
      · rw [List.count_cons_self, List.count_eq_zero_of_not_mem hrow]

/-- No slot is taken from a receiver that is not gone. -/
theorem count_takeSlot_of_live (hlive : live r = true) (h : new ≠ r) :
  (takeSlot live new row).count r = row.count r
  := by
  induction row with
  | nil => apply List.count_cons_of_ne h
  | cons slot row ih =>
      rw [takeSlot]
      split
      · rw [List.count_cons, List.count_cons, ih]
      · rename_i hgone
        have hslot : slot ≠ r := by
          intro heq
          apply hgone
          rw [heq, hlive]
        rw [List.count_cons_of_ne h, List.count_cons_of_ne hslot]

end TakeSlot

/-! ### Slots after an operation -/

/-- A change of a channel that keeps its slots keeps the slots of every channel. -/
theorem slots_modifyChannel (hub : Hub α) (c other : ChannelId) (f : Channel → Channel)
    (h : ∀ channel, (f channel).slots = channel.slots) :
  (hub.modifyChannel c f).slots other = hub.slots other
  := by
  rw [slots, channel?, modifyChannel, List.getElem?_modify, slots, channel?]
  cases hub.channels[other.index]? with
  | none => rfl
  | some channel =>
      change (if c.index = other.index then f channel else channel).slots = channel.slots
      split
      · apply h
      · rfl

/-- A new channel has no slots, and the other channels keep theirs. -/
theorem slots_openChannel (hub : Hub α) (c : ChannelId) :
  hub.openChannel.2.slots c = hub.slots c
  := by
  change ((hub.channels ++ [⟨1, []⟩])[c.index]?).elim [] Channel.slots =
    (hub.channels[c.index]?).elim [] Channel.slots
  rcases Nat.lt_trichotomy c.index hub.channels.length with hlt | heq | hgt
  · rw [List.getElem?_append_left hlt]
  · rw [heq, List.getElem?_concat_length, List.getElem?_eq_none (Nat.le_refl _)]
    rfl
  · rw [List.getElem?_eq_none, List.getElem?_eq_none (Nat.le_of_lt hgt)]
    rw [List.length_append]
    apply hgt

/-- A new receiver takes a slot of its channel, and the other channels keep their slots. -/
theorem slots_subscribe (hub : Hub α) {c : ChannelId} (known : c.index < hub.channels.length)
    (n : Nat) (positive : 0 < n) (other : ChannelId) :
  (hub.subscribe c n positive).2.slots other =
    if c = other then takeSlot hub.isLive ⟨hub.receivers.length⟩ (hub.slots c)
    else hub.slots other
  := by
  change ((hub.channels.modify c.index _)[other.index]?).elim [] Channel.slots = _
  rw [List.getElem?_modify]
  by_cases hc : c = other
  · subst hc
    simp only [if_true]
    rw [slots, channel?, List.getElem?_eq_getElem known]
    rfl
  · simp only [hc, ChannelId.index_ne hc, if_false]
    apply congrArg (Option.elim · [] Channel.slots)
    apply Option.map_id'

/-! ### Operations that leave the places as they are -/

/-- A hub has the places of another: it has the channels of the other with the same slots,
and receivers that are not gone were not gone in the other and are of the same channel. -/
structure Places (hub after : Hub α) : Prop where
  channels_le : hub.channels.length ≤ after.channels.length
  slots_eq : ∀ c, after.slots c = hub.slots c
  length_eq : after.receivers.length = hub.receivers.length
  exists_before : ∀ {r receiver}, after.receiver? r = some receiver →
    ∃ before, hub.receiver? r = some before ∧ before.channel = receiver.channel

theorem Places.refl (hub : Hub α) :
  hub.Places hub
  := ⟨Nat.le_refl _, fun _ => rfl, rfl, fun h => ⟨_, h, rfl⟩⟩

/-- Operations that leave the places as they are may follow each other. -/
theorem Places.trans {middle after : Hub α} (first : hub.Places middle)
    (second : middle.Places after) :
  hub.Places after
  := by
  refine ⟨?_, ?_, second.length_eq.trans first.length_eq, ?_⟩
  · apply Nat.le_trans first.channels_le second.channels_le
  · intro c
    rw [second.slots_eq, first.slots_eq]
  · intro r receiver h
    obtain ⟨between, hbetween, hchannel⟩ := second.exists_before h
    obtain ⟨before, hbefore, hsame⟩ := first.exists_before hbetween
    exact ⟨before, hbefore, hsame.trans hchannel⟩

/-- As long as the places are as they were, every receiver that is not gone has its slot. -/
theorem Placed.of_places {after : Hub α} (placed : hub.Placed) (places : hub.Places after) :
  after.Placed
  := by
  constructor
  · intro c r h
    rw [places.slots_eq] at h
    rw [places.length_eq]
    apply placed.created c r h
  · intro r receiver h c
    obtain ⟨before, hbefore, hchannel⟩ := places.exists_before h
    rw [places.slots_eq, placed.count_eq hbefore, hchannel]

theorem length_openChannel (hub : Hub α) :
  hub.openChannel.2.channels.length = hub.channels.length + 1
  := List.length_append

theorem places_openChannel (hub : Hub α) :
  hub.Places hub.openChannel.2
  := by
  refine ⟨?_, hub.slots_openChannel, rfl, fun h => ⟨_, h, rfl⟩⟩
  rw [length_openChannel]
  apply Nat.le_succ

/-- A change of a channel that keeps its slots leaves the places as they are. -/
theorem places_modifyChannel (hub : Hub α) (c : ChannelId) {f : Channel → Channel}
    (h : ∀ channel, (f channel).slots = channel.slots) :
  hub.Places (hub.modifyChannel c f)
  := by
  refine ⟨?_, ?_, rfl, fun h => ⟨_, h, rfl⟩⟩
  · apply Nat.le_of_eq (List.length_modify _ _ _).symm
  · intro other
    apply slots_modifyChannel hub c other f h

theorem places_retain (hub : Hub α) (c : ChannelId) :
  hub.Places (hub.retain c)
  := hub.places_modifyChannel c fun _ => rfl

theorem places_release (hub : Hub α) (c : ChannelId) :
  hub.Places (hub.release c)
  := hub.places_modifyChannel c fun _ => rfl

/-- A receiver that is dropped leaves its slot behind, for a new receiver to take. -/
theorem places_unsubscribe (hub : Hub α) (r : ReceiverId) :
  hub.Places (hub.unsubscribe r)
  := by
  refine ⟨Nat.le_refl _, fun _ => rfl, List.length_set, ?_⟩
  intro other receiver h
  rw [receiver?_unsubscribe] at h
  split at h
  · cases h
  · exact ⟨receiver, h, rfl⟩

/-- What is in the buffers does not matter for the places. -/
theorem places_setBuffer (hub : Hub α) (r : ReceiverId) (buffer : RingBuffer α) :
  hub.Places (hub.setBuffer r buffer)
  := by
  refine ⟨Nat.le_refl _, fun _ => rfl, List.length_modify _ _ _, ?_⟩
  intro other receiver h
  rw [receiver?_setBuffer] at h
  split at h
  · obtain ⟨before, hbefore, rfl⟩ := Option.map_eq_some_iff.mp h
    exact ⟨before, hbefore, rfl⟩
  · exact ⟨receiver, h, rfl⟩

theorem places_deposit (hub : Hub α) (r : ReceiverId) (value : α) :
  hub.Places (hub.deposit r value)
  := by
  rw [deposit]
  split
  · apply Places.refl
  · apply places_setBuffer

/-- Sending a message changes buffers, and leaves the places as they are. -/
theorem places_sendCopies (hub : Hub α) (c : ChannelId) (copy : Nat → α) :
  hub.Places (hub.sendCopies c copy)
  := by
  rw [sendCopies]
  generalize (hub.liveReceivers c).zipIdx 1 = copies
  induction copies generalizing hub with
  | nil => apply Places.refl
  | cons first copies ih => apply (places_deposit hub first.1 _).trans (ih _)

theorem places_take (hub : Hub α) (r : ReceiverId) :
  hub.Places (hub.take r).2
  := by
  rw [take]
  split
  · apply Places.refl
  · apply places_setBuffer

/-! ### New receivers -/

/-- A new receiver gets one slot, in its channel, and all other receivers keep theirs. -/
theorem Placed.subscribe (placed : hub.Placed) {c : ChannelId}
    (known : c.index < hub.channels.length) (n : Nat) (positive : 0 < n) :
  (hub.subscribe c n positive).2.Placed
  := by
  have hlength : (hub.subscribe c n positive).2.receivers.length =
      hub.receivers.length + 1 := List.length_append
  have hnew (other : ChannelId) : ⟨hub.receivers.length⟩ ∉ hub.slots other := by
    intro hmem
    apply Nat.lt_irrefl _ (placed.created other _ hmem)
  constructor
  · intro other r h
    rw [hlength]
    rw [slots_subscribe hub known] at h
    split at h
    · rcases mem_takeSlot h with rfl | h
      · apply Nat.lt_succ_self
      · apply Nat.lt_succ_of_lt (placed.created c r h)
    · apply Nat.lt_succ_of_lt (placed.created other r h)
  · intro r receiver h other
    rw [receiver?_subscribe] at h
    rw [slots_subscribe hub known]
    split at h
    · rename_i hindex
      cases h
      cases r
      cases hindex
      split
      · apply count_takeSlot_self (hnew c)
      · apply List.count_eq_zero_of_not_mem (hnew other)
    · rename_i hindex
      rw [← placed.count_eq h other]
      split
      · rename_i hc
        rw [← hc]
        apply count_takeSlot_of_live (isLive_iff.mpr ⟨receiver, h⟩)
        intro heq
        apply hindex
        rw [← heq]
      · rfl

/-! ### Messages -/

/-- What becomes of the receivers when the buffer of one that is not gone is changed. -/
theorem receiver?_of_setBuffer {after : Hub α} {r : ReceiverId}
    (f : RingBuffer α → RingBuffer α) (gone : hub.receiver? r = none → after = hub)
    (changed : ∀ receiver, hub.receiver? r = some receiver →
      after = hub.setBuffer r (f receiver.buffer)) (other : ReceiverId) :
  after.receiver? other =
    if r = other then
      (hub.receiver? other).map (fun receiver =>
        { receiver with buffer := f receiver.buffer })
    else hub.receiver? other
  := by
  cases hreceiver : hub.receiver? r with
  | none =>
      rw [gone hreceiver]
      split
      · rename_i hr
        rw [← hr, hreceiver]
        rfl
      · rfl
  | some receiver =>
      rw [changed receiver hreceiver, receiver?_setBuffer]
      split
      · rename_i hr
        rw [← hr, hreceiver]
        rfl
      · rfl

/-- A message that is deposited for a receiver is appended to its buffer and to no other. -/
theorem receiver?_deposit (hub : Hub α) (r other : ReceiverId) (value : α) :
  (hub.deposit r value).receiver? other =
    if r = other then (hub.receiver? other).map (·.append value) else hub.receiver? other
  := by
  apply receiver?_of_setBuffer (fun buffer => (buffer.push value).2)
  · intro hgone
    rw [deposit, hgone]
  · intro receiver hreceiver
    rw [deposit, hreceiver]

/-- Of the messages that are deposited one after the other, a receiver gets those that are
for it. -/
theorem receiver?_deposits (hub : Hub α) (copies : List (ReceiverId × Nat)) (copy : Nat → α)
    (r : ReceiverId) :
  (copies.foldl (fun hub (other, n) => hub.deposit other (copy n)) hub).receiver? r =
    (copies.filter (fun entry => entry.1 = r)).foldl
      (fun receiver entry => receiver.map (·.append (copy entry.2))) (hub.receiver? r)
  := by
  induction copies generalizing hub with
  | nil => rfl
  | cons first copies ih =>
      rw [List.foldl_cons, ih, receiver?_deposit, List.filter_cons]
      by_cases hr : first.1 = r
      · rw [if_pos hr, if_pos (decide_eq_true hr), List.foldl_cons]
      · rw [if_neg hr, if_neg (by simp [hr])]

/-- There are as many copies for a receiver as it has slots. -/
theorem length_filter_zipIdx (row : List ReceiverId) (r : ReceiverId) (n : Nat) :
  ((row.zipIdx n).filter (fun entry => entry.1 = r)).length = row.count r
  := by
  induction row generalizing n with
  | nil => rfl
  | cons slot row ih =>
      rw [List.zipIdx_cons, List.filter_cons, List.count_cons, ← ih (n + 1)]
      by_cases hr : slot = r
      · rw [if_pos (decide_eq_true hr), if_pos (beq_iff_eq.mpr hr), List.length_cons]
      · rw [if_neg (by simp [hr]), if_neg (by simp [hr])]
        rfl

/-- A receiver that is not gone is once among the live receivers of its channel, and never among
those of another. -/
theorem count_liveReceivers (placed : hub.Placed) {r : ReceiverId} {receiver : Receiver α}
    (h : hub.receiver? r = some receiver) (c : ChannelId) :
  (hub.liveReceivers c).count r = if receiver.channel = c then 1 else 0
  := by
  rw [liveReceivers_eq, List.count_filter (isLive_iff.mpr ⟨receiver, h⟩),
    placed.count_eq h c]

/-- A message that is sent on a channel is appended once to the buffer of each of its
receivers. -/
theorem Placed.receiver?_sendCopies (placed : hub.Placed) {r : ReceiverId}
    {receiver : Receiver α} (h : hub.receiver? r = some receiver) (copy : Nat → α) :
  ∃ n, (hub.sendCopies receiver.channel copy).receiver? r =
    some (receiver.append (copy n))
  := by
  -- Of the copies, one is for the receiver, because it has one slot.
  have hlength := length_filter_zipIdx (hub.liveReceivers receiver.channel) r 1
  rw [count_liveReceivers placed h, if_pos rfl] at hlength
  obtain ⟨entry, hentry⟩ := List.length_eq_one_iff.mp hlength
  use entry.2
  rw [sendCopies, receiver?_deposits, hentry, h]
  rfl

/-- A message that is sent on a channel changes nothing for the receivers of others. -/
theorem Placed.receiver?_sendCopies_of_ne (placed : hub.Placed) {r : ReceiverId}
    {receiver : Receiver α} (h : hub.receiver? r = some receiver) {c : ChannelId}
    (hc : receiver.channel ≠ c) (copy : Nat → α) :
  (hub.sendCopies c copy).receiver? r = some receiver
  := by
  have hlength := length_filter_zipIdx (hub.liveReceivers c) r 1
  rw [count_liveReceivers placed h, if_neg hc] at hlength
  rw [sendCopies, receiver?_deposits, List.eq_nil_of_length_eq_zero hlength, h]
  rfl

/-- Taking a message of a receiver takes it from the buffer, and changes nothing for the
other receivers. -/
theorem receiver?_take (hub : Hub α) (r other : ReceiverId) :
  (hub.take r).2.receiver? other =
    if r = other then
      (hub.receiver? other).map (fun receiver =>
        { receiver with buffer := receiver.buffer.pop.2 })
    else hub.receiver? other
  := by
  apply receiver?_of_setBuffer (fun buffer => buffer.pop.2)
  · intro hgone
    rw [take, hgone]
  · intro receiver hreceiver
    rw [take, hreceiver]

/-- The message that is taken is the first that waits. -/
theorem Sound.take_eq_head? (sound : hub.Sound) (r : ReceiverId) :
  (hub.take r).1 = (hub.waiting r).head?
  := by
  cases hreceiver : hub.receiver? r with
  | none =>
      rw [Hub.take, hreceiver, waiting, hreceiver]
      rfl
  | some receiver =>
      obtain ⟨values, represents⟩ := sound r receiver hreceiver
      rw [waiting_of_receiver? hreceiver represents, Hub.take, hreceiver]
      apply represents.pop.1

/-- No receiver comes or goes when a message is sent. -/
theorem Placed.isLive_sendCopies (placed : hub.Placed) (c : ChannelId) (copy : Nat → α)
    (r : ReceiverId) :
  (hub.sendCopies c copy).isLive r = hub.isLive r
  := by
  rw [Bool.eq_iff_iff, isLive_iff, isLive_iff]
  constructor
  · rintro ⟨receiver, hreceiver⟩
    obtain ⟨before, hbefore, -⟩ := (places_sendCopies hub c copy).exists_before hreceiver
    exact ⟨before, hbefore⟩
  · rintro ⟨receiver, hreceiver⟩
    by_cases hc : receiver.channel = c
    · subst hc
      obtain ⟨n, hn⟩ := placed.receiver?_sendCopies hreceiver copy
      exact ⟨_, hn⟩
    · exact ⟨receiver, placed.receiver?_sendCopies_of_ne hreceiver hc copy⟩

/-- No receiver comes or goes when a message is taken. -/
theorem isLive_take (hub : Hub α) (r other : ReceiverId) :
  (hub.take r).2.isLive other = hub.isLive other
  := by
  rw [isLive, receiver?_take, isLive]
  split
  · apply Option.isSome_map
  · rfl

end Hub

end FlightBus

import FlightBus.Proofs.Bus.Streams
import Mathlib.Data.List.Nodup

/-!
# The order of delivery

The copies of a message are made and appended one after the other, for the receivers of the
channel in slot order.  So the receivers are served in the order in which they were created
as long as their slots lie in this order.

They do not always lie so: a new receiver gets the first slot whose receiver is gone, and an
older receiver may have a slot behind it.  The receivers are served in the order of creation
all along a run exactly when this never happens.
-/

namespace FlightBus

namespace Hub

variable {α : Type}

/-- A receiver is served with the copy of this number of a message that is sent on a
channel. -/
def Serves (hub : Hub α) (c : ChannelId) (r : ReceiverId) (n : Nat) : Prop :=
  (r, n) ∈ (hub.liveReceivers c).zipIdx 1

/-- The slots of the receivers that are not gone lie in the order of creation. -/
def Ordered (hub : Hub α) : Prop :=
  ∀ c, (hub.liveReceivers c).Pairwise (fun older newer => older.index < newer.index)

/-- Of two receivers of a channel, the older one is served first: the copy of a message that
is appended to its buffer is made before the copy for the other. -/
def InOrder (hub : Hub (Numbered α)) : Prop :=
  ∀ older newer first second, hub.receiver? older = some first →
    hub.receiver? newer = some second → first.channel = second.channel →
    older.index < newer.index →
    ∃ m n, m < n ∧
      hub.Serves first.channel older m ∧ hub.Serves first.channel newer n ∧
      ∀ value,
        (hub.sendCopies first.channel (⟨value, ·⟩)).receiver? older =
            some (first.append ⟨value, m⟩) ∧
          (hub.sendCopies first.channel (⟨value, ·⟩)).receiver? newer =
            some (second.append ⟨value, n⟩)

/-! ### The copy for a receiver -/

section Copies

variable {hub : Hub α} {c : ChannelId} {r : ReceiverId} {receiver : Receiver α} {m n : Nat}

theorem serves_iff :
  hub.Serves c r n ↔ 1 ≤ n ∧ (hub.liveReceivers c)[n - 1]? = some r
  := List.mem_zipIdx_iff_le_and_getElem?_sub

theorem exists_serves (h : r ∈ hub.liveReceivers c) :
  ∃ n, hub.Serves c r n
  := by
  obtain ⟨i, hi⟩ := List.mem_iff_getElem?.mp h
  use i + 1
  apply serves_iff.mpr
  exact ⟨Nat.le_add_left 1 i, hi⟩

theorem Placed.mem_liveReceivers_iff (placed : hub.Placed) :
  r ∈ hub.liveReceivers c ↔
    ∃ receiver, hub.receiver? r = some receiver ∧ receiver.channel = c
  := by
  constructor
  · intro hmem
    have hlive := hmem
    rw [liveReceivers_eq, List.mem_filter, isLive_iff] at hlive
    obtain ⟨-, receiver, hreceiver⟩ := hlive
    refine ⟨receiver, hreceiver, ?_⟩
    by_contra hchannel
    have hcount := count_liveReceivers placed hreceiver c
    rw [if_neg hchannel] at hcount
    apply List.count_eq_zero.mp hcount hmem
  · rintro ⟨receiver, hreceiver, rfl⟩
    apply List.count_pos_iff.mp
    rw [count_liveReceivers placed hreceiver, if_pos rfl]
    apply Nat.one_pos

theorem Placed.nodup_liveReceivers (placed : hub.Placed) (c : ChannelId) :
  (hub.liveReceivers c).Nodup
  := by
  rw [List.nodup_iff_count_le_one]
  intro r
  by_cases hmem : r ∈ hub.liveReceivers c
  · obtain ⟨receiver, hreceiver, rfl⟩ := placed.mem_liveReceivers_iff.mp hmem
    apply Nat.le_of_eq
    rw [count_liveReceivers placed hreceiver, if_pos rfl]
  · rw [List.count_eq_zero_of_not_mem hmem]
    apply Nat.zero_le

/-- There is one copy for a receiver. -/
theorem Placed.copies_eq (placed : hub.Placed) (h : hub.Serves c r n) :
  ((hub.liveReceivers c).zipIdx 1).filter (fun entry => entry.1 = r) = [(r, n)]
  := by
  have hmem : (r, n) ∈ ((hub.liveReceivers c).zipIdx 1).filter (fun entry => entry.1 = r) :=
    List.mem_filter.mpr ⟨h, decide_eq_true rfl⟩
  have hlength := length_filter_zipIdx (hub.liveReceivers c) r 1
  have hle := List.nodup_iff_count_le_one.mp (placed.nodup_liveReceivers c) r
  obtain ⟨entry, hentry⟩ := List.length_eq_one_iff.mp
    (Nat.le_antisymm (hlength ▸ hle) (List.length_pos_of_mem hmem))
  rw [hentry] at hmem ⊢
  rw [List.mem_singleton.mp hmem]

theorem Placed.serves_unique (placed : hub.Placed) (first : hub.Serves c r m)
    (second : hub.Serves c r n) :
  m = n
  := by
  have heq := (placed.copies_eq first).symm.trans (placed.copies_eq second)
  cases heq
  rfl

/-- The copy that a receiver is served with is appended to its buffer. -/
theorem Placed.receiver?_sendCopies_of_serves (placed : hub.Placed)
    (h : hub.receiver? r = some receiver) (serves : hub.Serves c r n) (copy : Nat → α) :
  (hub.sendCopies c copy).receiver? r = some (receiver.append (copy n))
  := by
  rw [sendCopies, receiver?_deposits, placed.copies_eq serves, h]
  rfl

end Copies

/-! ### Slots in the order of creation -/

section Order

variable {hub after : Hub α}

theorem Ordered.lt_of_serves (ordered : hub.Ordered) {c : ChannelId} {older newer : ReceiverId}
    {m n : Nat} (first : hub.Serves c older m) (second : hub.Serves c newer n)
    (h : older.index < newer.index) :
  m < n
  := by
  obtain ⟨hm, hfirst⟩ := serves_iff.mp first
  obtain ⟨hn, hsecond⟩ := serves_iff.mp second
  obtain ⟨hi, rfl⟩ := List.getElem?_eq_some_iff.mp hfirst
  obtain ⟨hj, rfl⟩ := List.getElem?_eq_some_iff.mp hsecond
  have hpairs := List.pairwise_iff_getElem.mp (ordered c)
  rcases Nat.lt_trichotomy (m - 1) (n - 1) with hlt | heq | hgt
  · omega
  · simp only [heq, Nat.lt_irrefl] at h
  · cases Nat.lt_asymm h (hpairs _ _ hj hi hgt)

theorem Placed.ordered_of_lt (placed : hub.Placed)
    (h : ∀ c older newer m n, hub.Serves c older m → hub.Serves c newer n →
      older.index < newer.index → m < n) :
  hub.Ordered
  := by
  intro c
  rw [List.pairwise_iff_getElem]
  intro i j hi hj hij
  have first : hub.Serves c (hub.liveReceivers c)[i] (i + 1) :=
    serves_iff.mpr ⟨Nat.le_add_left 1 i, List.getElem?_eq_getElem hi⟩
  have second : hub.Serves c (hub.liveReceivers c)[j] (j + 1) :=
    serves_iff.mpr ⟨Nat.le_add_left 1 j, List.getElem?_eq_getElem hj⟩
  rcases Nat.lt_trichotomy (hub.liveReceivers c)[i].index (hub.liveReceivers c)[j].index with
    hlt | heq | hgt
  · apply hlt
  · have hsame : (hub.liveReceivers c)[i] = (hub.liveReceivers c)[j] :=
      congrArg ReceiverId.mk heq
    cases Nat.ne_of_lt hij
      ((placed.nodup_liveReceivers c).getElem_inj_iff.mp hsame)
  · have hlt := h c _ _ _ _ second first hgt
    omega

/-- An operation that moves no slot keeps the order. -/
theorem Ordered.of_places (ordered : hub.Ordered) (places : hub.Places after) :
  after.Ordered
  := by
  intro c
  refine List.Pairwise.sublist ?_ (ordered c)
  rw [liveReceivers_eq, liveReceivers_eq, places.slots_eq]
  apply List.monotone_filter_right
  intro r hlive
  obtain ⟨receiver, hreceiver⟩ := isLive_iff.mp hlive
  obtain ⟨before, hbefore, -⟩ := places.exists_before hreceiver
  apply isLive_iff.mpr ⟨before, hbefore⟩

end Order

/-- The receivers of all channels are served in the order of creation exactly when their
slots lie in this order. -/
theorem Placed.inOrder_iff {hub : Hub (Numbered α)} (placed : hub.Placed) :
  hub.InOrder ↔ hub.Ordered
  := by
  constructor
  · intro inOrder
    apply placed.ordered_of_lt
    intro c older newer m n first second h
    obtain ⟨-, hfirst⟩ := serves_iff.mp first
    obtain ⟨-, hsecond⟩ := serves_iff.mp second
    obtain ⟨receiver, hreceiver, rfl⟩ :=
      placed.mem_liveReceivers_iff.mp (List.mem_of_getElem? hfirst)
    obtain ⟨other, hother, hchannel⟩ :=
      placed.mem_liveReceivers_iff.mp (List.mem_of_getElem? hsecond)
    obtain ⟨k, l, hlt, holder, hnewer, -⟩ :=
      inOrder older newer receiver other hreceiver hother hchannel.symm h
    rw [placed.serves_unique first holder, placed.serves_unique second hnewer]
    apply hlt
  · intro ordered older newer first second hfirst hsecond hchannel h
    obtain ⟨m, hm⟩ := exists_serves (placed.mem_liveReceivers_iff.mpr ⟨first, hfirst, rfl⟩)
    obtain ⟨n, hn⟩ := exists_serves
      (placed.mem_liveReceivers_iff.mpr ⟨second, hsecond, hchannel.symm⟩)
    refine ⟨m, n, ordered.lt_of_serves hm hn h, hm, hn, ?_⟩
    intro value
    constructor
    · apply placed.receiver?_sendCopies_of_serves hfirst hm
    · apply placed.receiver?_sendCopies_of_serves hsecond hn

/-! ### Taking a slot -/

section TakeSlot

variable {live kept : ReceiverId → Bool} {new : ReceiverId} {row : List ReceiverId}

/-- The slots in front of the first one whose receiver is gone stay in front of the new
receiver, and the others lie behind it. -/
theorem filter_takeSlot (hnew : kept new = true) (h : ∀ r ∈ row, kept r = true → live r = true) :
  (takeSlot live new row).filter kept =
    (row.takeWhile live).filter kept ++ new :: (row.dropWhile live).filter kept
  := by
  induction row with
  | nil => simp [takeSlot, hnew]
  | cons slot row ih =>
      have hrow := ih fun r hr => h r (List.mem_cons_of_mem slot hr)
      cases hlive : live slot with
      | true =>
          rw [takeSlot, if_pos hlive, List.takeWhile_cons_of_pos hlive,
            List.dropWhile_cons_of_pos hlive, List.filter_cons, hrow, List.filter_cons]
          split
          · rfl
          · rfl
      | false =>
          have hgone : ¬ live slot = true := by
            rw [hlive]
            apply Bool.false_ne_true
          have hslot : ¬ kept slot = true := by
            intro hkept
            apply hgone (h slot List.mem_cons_self hkept)
          rw [takeSlot, if_neg hgone, List.takeWhile_cons_of_neg hgone,
            List.dropWhile_cons_of_neg hgone, List.filter_cons_of_pos hnew,
            List.filter_cons_of_neg hslot]
          rfl

/-- The order outlasts a new receiver exactly when no slot lies behind it whose receiver is
kept. -/
theorem pairwise_takeSlot_iff (hnew : kept new = true)
    (hlive : ∀ r ∈ row, kept r = true → live r = true)
    (hlt : ∀ r ∈ row, r.index < new.index)
    (ordered : (row.filter kept).Pairwise (fun older newer => older.index < newer.index)) :
  ((takeSlot live new row).filter kept).Pairwise
      (fun older newer => older.index < newer.index) ↔
    ∀ r ∈ row.dropWhile live, ¬ kept r = true
  := by
  rw [filter_takeSlot hnew hlive, List.pairwise_append, List.pairwise_cons,
    ← List.filter_eq_nil_iff]
  constructor
  · rintro ⟨-, ⟨hbehind, -⟩, -⟩
    rw [List.eq_nil_iff_forall_not_mem]
    intro r hr
    have hrow := (List.dropWhile_sublist live).subset (List.mem_filter.mp hr).1
    apply Nat.lt_asymm (hlt r hrow) (hbehind r hr)
  · intro hnil
    rw [hnil]
    refine ⟨?_, ⟨?_, List.Pairwise.nil⟩, ?_⟩
    · refine List.Pairwise.sublist ?_ ordered
      apply (List.takeWhile_sublist live).filter
    · intro r hr
      cases hr
    · intro r hr other hother
      rw [List.mem_singleton.mp hother]
      apply hlt r ((List.takeWhile_sublist live).subset (List.mem_filter.mp hr).1)

end TakeSlot

end Hub

namespace HubSession

variable {α : Type} {session : HubSession α}

/-- When an action creates a receiver, no receiver but the one that it replaces has a slot
behind one whose receiver is gone. -/
def Joins (session : HubSession α) : HubAction α → Prop
  | .receiver source name capacity =>
      0 < capacity → ∀ c, session.channelOf? source = some c →
        ∀ r ∈ (session.hub.slots c).dropWhile session.hub.isLive,
          session.hub.isLive r = true → session.receivers.find? name = some r
  | _ => True

/-! ### Single actions -/

theorem places_releaseHeld (hub : Hub (Numbered α)) (held : Option ChannelId) :
  hub.Places (held.elim hub hub.release)
  := by
  cases held with
  | none => apply Hub.Places.refl
  | some c => apply Hub.places_release

/-- An action that creates no receiver moves no slot. -/
theorem places_perform (session : HubSession α) {action : HubAction α}
    (h : ∀ source name capacity, action ≠ .receiver source name capacity) :
  session.hub.Places (session.perform action).2.hub
  := by
  cases action with
  | create name => apply (Hub.places_openChannel _).trans (places_releaseHeld _ _)
  | clone source name =>
      rw [perform]
      split
      · apply (Hub.places_retain _ _).trans (places_releaseHeld _ _)
      · apply (Hub.places_retain _ _).trans (places_releaseHeld _ _)
      · apply Hub.Places.refl
  | sender channel name =>
      rw [perform]
      split
      · apply (Hub.places_retain _ _).trans (places_releaseHeld _ _)
      · apply Hub.Places.refl
  | receiver source name capacity => cases h source name capacity rfl
  | send sender value =>
      rw [perform]
      split
      · apply Hub.places_sendCopies
      · apply Hub.Places.refl
  | take name =>
      cases hname : session.receivers.find? name with
      | none =>
          rw [perform, hname]
          apply Hub.Places.refl
      | some r =>
          rw [perform_take hname]
          apply Hub.places_take
  | receive name =>
      cases hname : session.receivers.find? name with
      | none =>
          rw [perform, hname]
          apply Hub.Places.refl
      | some r =>
          obtain ⟨reason, hperform⟩ := perform_receive hname
          rw [hperform]
          apply Hub.places_take
  | drop name =>
      rw [perform, drop?]
      split
      · rename_i after hafter
        split at hafter
        · cases hafter
          apply Hub.places_release
        · cases hafter
          apply Hub.places_release
        · cases hafter
          apply Hub.places_unsubscribe
        · cases hafter
      · apply Hub.Places.refl

section Subscribe

variable {c : ChannelId} {name : String}

theorem slots_holdReceiver (session : HubSession α) (name : String) (r : ReceiverId)
    (c : ChannelId) :
  (session.holdReceiver name r).hub.slots c = session.hub.slots c
  := (session.places_holdReceiver name r).slots_eq c

/-- Whether a receiver is not gone and is not held under a name. -/
def isKept (session : HubSession α) (name : String) (r : ReceiverId) : Bool :=
  session.hub.isLive r && decide (session.receivers.find? name ≠ some r)

theorem isKept_iff {r : ReceiverId} :
  session.isKept name r = true ↔
    session.hub.isLive r = true ∧ session.receivers.find? name ≠ some r
  := by
  rw [isKept, Bool.and_eq_true, decide_eq_true_iff]

/-- The session after a new receiver of a channel came under a name. -/
def subscribed (session : HubSession α) (name : String) (c : ChannelId) (capacity : Nat)
    (positive : 0 < capacity) : HubSession α :=
  { session with hub := (session.hub.subscribe c capacity positive).2 }.holdReceiver name
    ⟨session.hub.receivers.length⟩

/-- The new receiver is there, and all others are but the one that it replaces. -/
theorem isLive_subscribed (held : session.Held) (c : ChannelId) (capacity : Nat)
    (positive : 0 < capacity) (r : ReceiverId) :
  (session.subscribed name c capacity positive).hub.isLive r =
    if r.index = session.hub.receivers.length then true else session.isKept name r
  := by
  rw [Bool.eq_iff_iff, subscribed, Hub.isLive, receiver?_holdReceiver,
    Hub.receiver?_subscribe]
  split
  · rename_i hname
    rw [if_neg]
    · simp [isKept, hname]
    · intro hindex
      apply held.find?_ne_next name
      rw [hname, ← hindex]
  · rename_i hname
    split
    · simp
    · simp [isKept, hname, Hub.isLive]

/-- The order outlasts the creation of a receiver exactly when all receivers that stay have
their slots in front of it. -/
theorem ordered_subscribed_iff (regular : session.Regular) (held : session.Held)
    (ordered : session.hub.Ordered) (known : c.index < session.hub.channels.length)
    {capacity : Nat} (positive : 0 < capacity) :
  (session.subscribed name c capacity positive).hub.Ordered ↔
    ∀ r ∈ (session.hub.slots c).dropWhile session.hub.isLive, ¬ session.isKept name r = true
  := by
  have hrow (other : ChannelId) : ∀ r ∈ session.hub.slots other,
      r.index < session.hub.receivers.length := regular.placed.created other
  -- Of the receivers that were created before, those that are kept are live afterwards.
  have hsame (other : ChannelId) : ∀ r ∈ session.hub.slots other,
      (session.subscribed name c capacity positive).hub.isLive r = session.isKept name r := by
    intro r hr
    rw [isLive_subscribed held, if_neg (Nat.ne_of_lt (hrow other r hr))]
  have hkept (other : ChannelId) :
      ((session.hub.slots other).filter
          (session.subscribed name c capacity positive).hub.isLive).Pairwise
        (fun older newer => older.index < newer.index) := by
    rw [List.filter_congr (hsame other)]
    refine List.Pairwise.sublist ?_ (ordered other)
    rw [Hub.liveReceivers_eq]
    apply List.monotone_filter_right
    intro r hr
    apply (isKept_iff.mp hr).1
  have hbehind : (∀ r ∈ (session.hub.slots c).dropWhile session.hub.isLive,
        ¬ (session.subscribed name c capacity positive).hub.isLive r = true) ↔
      ∀ r ∈ (session.hub.slots c).dropWhile session.hub.isLive,
        ¬ session.isKept name r = true := by
    apply forall₂_congr
    intro r hr
    rw [hsame c r ((List.dropWhile_sublist _).subset hr)]
  have hnew : (session.subscribed name c capacity positive).hub.isLive
      ⟨session.hub.receivers.length⟩ = true := by
    rw [isLive_subscribed held, if_pos rfl]
  have hlive : ∀ r ∈ session.hub.slots c,
      (session.subscribed name c capacity positive).hub.isLive r = true →
        session.hub.isLive r = true := by
    intro r hr h
    rw [hsame c r hr] at h
    apply (isKept_iff.mp h).1
  have hslots (other : ChannelId) :
      (session.subscribed name c capacity positive).hub.slots other =
        if c = other then
          Hub.takeSlot session.hub.isLive ⟨session.hub.receivers.length⟩ (session.hub.slots c)
        else session.hub.slots other := by
    rw [subscribed, slots_holdReceiver, Hub.slots_subscribe _ known]
  have hiff := Hub.pairwise_takeSlot_iff hnew hlive (hrow c) (hkept c)
  rw [← hbehind, ← hiff]
  constructor
  · intro after
    have hc := after c
    rw [Hub.liveReceivers_eq, hslots, if_pos rfl] at hc
    apply hc
  · intro hc other
    rw [Hub.liveReceivers_eq, hslots]
    split
    · apply hc
    · apply hkept

end Subscribe

/-- The order outlasts an action exactly when a receiver that the action creates gets a slot
behind all others. -/
theorem ordered_perform_iff (regular : session.Regular) (held : session.Held)
    (ordered : session.hub.Ordered) (action : HubAction α) :
  (session.perform action).2.hub.Ordered ↔ session.Joins action
  := by
  cases action with
  | receiver source name capacity =>
      by_cases hcreates : 0 < capacity ∧ ∃ c, session.channelOf? source = some c
      · obtain ⟨positive, c, hc⟩ := hcreates
        have hafter : (session.perform (.receiver source name capacity)).2 =
            session.subscribed name c capacity positive := by
          simp only [perform, hc, Hub.subscribe?, RingBuffer.new?, positive, dif_pos,
            Option.map_some]
          rfl
        rw [hafter, ordered_subscribed_iff regular held ordered (regular.channelOf?_lt hc)]
        simp only [isKept_iff, not_and, not_not]
        constructor
        · intro h _ other hother
          cases hc.symm.trans hother
          apply h
        · intro h
          apply h positive c hc
      · have hafter : (session.perform (.receiver source name capacity)).2 = session := by
          obtain hsame | ⟨c, positive, hc, -⟩ := session.perform_receiver source name capacity
          · apply hsame
          · cases hcreates ⟨positive, c, hc⟩
        rw [hafter]
        apply iff_of_true ordered
        intro positive c hc
        cases hcreates ⟨positive, c, hc⟩
  | create | clone | sender | send | take | receive | drop =>
      apply iff_of_true _ trivial
      apply ordered.of_places
      apply places_perform
      intro source name capacity h
      cases h

/-! ### Runs -/

theorem ordered_empty :
  ({} : HubSession α).hub.Ordered
  := by
  intro c
  apply List.Pairwise.nil

/-- Along a run the slots lie in the order of creation in every state exactly when every
receiver that is created gets a slot behind all others. -/
theorem ordered_performAll_iff (actions : List (HubAction α)) :
  (∀ before, before <+: actions → (performAll {} before).hub.Ordered) ↔
    ∀ before action, before ++ [action] <+: actions → (performAll {} before).Joins action
  := by
  constructor
  · intro states before action hprefix
    have ordered := states before ((List.prefix_append _ _).trans hprefix)
    have after := states (before ++ [action]) hprefix
    rw [performAll_append, performAll_singleton] at after
    apply (ordered_perform_iff (regular_performAll before) (held_performAll before)
      ordered action).mp after
  · intro joins before
    induction before using List.reverseRecOn with
    | nil =>
        intro _
        apply ordered_empty
    | append_singleton before action ih =>
        intro hprefix
        rw [performAll_append, performAll_singleton]
        apply (ordered_perform_iff (regular_performAll before) (held_performAll before)
          (ih ((List.prefix_append _ _).trans hprefix)) action).mpr
        apply joins before action hprefix

/-- Along a run the receivers of every channel are served in the order of creation in every
state exactly when no receiver that is created gets a slot in front of an older receiver
that stays. -/
theorem inOrder_iff_joins (actions : List (HubAction α)) :
  (∀ before, before <+: actions → (performAll {} before).hub.InOrder) ↔
    ∀ before action, before ++ [action] <+: actions → (performAll {} before).Joins action
  := by
  rw [← ordered_performAll_iff]
  apply forall₂_congr
  intro before _
  apply (regular_performAll before).placed.inOrder_iff

/-- A receiver that gets the slot of one that is gone is served before a receiver that was
created before it. -/
theorem not_inOrder_reuse :
  let actions : List (HubAction String) :=
    [.create "channel", .sender "channel" "sender", .receiver "channel" "first" 4,
      .receiver "channel" "second" 4, .drop "first", .receiver "channel" "third" 4]
  let sent := performAll {} (actions ++ [.send "sender" "message"])
  (sent.perform (.take "second")).1.message? = some ⟨"message", 2⟩ ∧
    (sent.perform (.take "third")).1.message? = some ⟨"message", 1⟩ ∧
    ¬ ∀ before, before <+: actions → (performAll {} before).hub.InOrder
  := by
  intro actions sent
  refine ⟨by decide, by decide, ?_⟩
  intro states
  have inOrder := states actions (List.prefix_refl actions)
  rw [(regular_performAll actions).placed.inOrder_iff] at inOrder
  have hpairs := inOrder ⟨0⟩
  revert hpairs
  decide

end HubSession

end FlightBus

import FlightBus.Proofs.Bus.Streams

/-!
# Closed channels

A channel counts its handles, and a session holds them under names: handles of channels and
handles of senders.  In every session the number of a channel is the number of names under
which one of its handles is held.  So a receiver finds its channel closed exactly when none is
held any more.

Nothing opens a channel again.  A handle is copied from one that is held, and a new channel is
none of those that there were before.  What waits for a receiver when the last handle is
dropped is therefore all that it will receive, in this order, and from then on it is told that
the channel is closed.
-/

namespace FlightBus

/-! ### Tables -/

namespace Named

variable {β : Type} {named : Named β}

/-- No name stands twice in a table. -/
def Distinct (named : Named β) : Prop :=
  (named.map Prod.fst).Nodup

theorem Distinct.erase (distinct : named.Distinct) (name : String) :
  (named.erase name).Distinct
  := by
  refine List.Nodup.sublist ?_ distinct
  apply List.filter_sublist.map

theorem Distinct.insert (distinct : named.Distinct) (name : String) (value : β) :
  (named.insert name value).Distinct
  := by
  apply List.nodup_cons.mpr
  refine ⟨?_, distinct.erase name⟩
  intro hmem
  obtain ⟨entry, hentry, hname⟩ := List.mem_map.mp hmem
  apply of_decide_eq_true (List.mem_filter.mp hentry).2 hname

theorem Distinct.find?_of_mem (distinct : named.Distinct) {name : String} {value : β}
    (h : (name, value) ∈ named) :
  named.find? name = some value
  := by
  obtain ⟨front, back, rfl⟩ := List.append_of_mem h
  apply List.lookup_eq_some_iff.mpr
  refine ⟨front, back, rfl, ?_⟩
  intro entry hentry
  rw [Distinct, List.map_append, List.nodup_append] at distinct
  apply bne_iff_ne.mpr
  apply Ne.symm
  apply distinct.2.2 _ (List.mem_map_of_mem hentry)
  apply List.mem_map_of_mem List.mem_cons_self

variable [DecidableEq β]

/-- The number of times that a value is stored. -/
def occurrences (named : Named β) (value : β) : Nat :=
  named.countP (·.2 = value)

/-- What is stored under a name is gone once when the name is erased. -/
theorem Distinct.occurrences_erase (distinct : named.Distinct) (name : String) (value : β) :
  occurrences (named.erase name) value + (if named.find? name = some value then 1 else 0) =
    occurrences named value
  := by
  induction named with
  | nil => rfl
  | cons entry named ih =>
      obtain ⟨key, stored⟩ := entry
      obtain ⟨hkey, hrest⟩ := List.nodup_cons.mp distinct
      by_cases hname : key = name
      · subst hname
        have hgone : Named.erase ((key, stored) :: named) key = named := by
          rw [Named.erase, List.filter_cons_of_neg (by simp), List.filter_eq_self]
          intro entry hentry
          apply decide_eq_true
          intro hsame
          apply hkey (List.mem_map.mpr ⟨entry, hentry, hsame⟩)
        rw [hgone, find?_cons_self, occurrences, occurrences, List.countP_cons]
        simp only [Option.some.injEq, decide_eq_true_iff]
      · have hkept : Named.erase ((key, stored) :: named) name =
            (key, stored) :: Named.erase named name :=
          List.filter_cons_of_pos (by simp [hname])
        have hfirst := ih hrest
        rw [hkept, find?_cons_of_ne _ _ hname]
        simp only [occurrences, List.countP_cons] at hfirst ⊢
        omega

/-- What is stored under a name replaces what was stored under it. -/
theorem Distinct.occurrences_insert (distinct : named.Distinct) (name : String)
    (value other : β) :
  occurrences (named.insert name value) other +
      (if named.find? name = some other then 1 else 0) =
    occurrences named other + if value = other then 1 else 0
  := by
  rw [← distinct.occurrences_erase name other, occurrences, Named.insert, List.countP_cons,
    occurrences]
  simp only [decide_eq_true_iff]
  omega

theorem Distinct.occurrences_eq_zero_iff (distinct : named.Distinct) (value : β) :
  occurrences named value = 0 ↔ ∀ name, named.find? name ≠ some value
  := by
  constructor
  · intro hzero name hname
    have hone := distinct.occurrences_erase name value
    rw [if_pos hname, hzero] at hone
    omega
  · intro habsent
    apply List.countP_eq_zero.mpr
    rintro ⟨name, stored⟩ hmem hvalue
    obtain rfl : stored = value := of_decide_eq_true hvalue
    apply habsent name (distinct.find?_of_mem hmem)

end Named

/-! ### Handles of a channel -/

namespace Hub

variable {α : Type} {hub : Hub α}

/-- The number of handles to a channel. -/
def handles (hub : Hub α) (c : ChannelId) : Nat :=
  ((hub.channel? c).map Channel.handles).getD 0

theorem isClosed_iff {r : ReceiverId} {receiver : Receiver α}
    (h : hub.receiver? r = some receiver) :
  hub.isClosed r = true ↔ hub.handles receiver.channel = 0
  := by
  rw [isClosed, h]
  apply decide_eq_true_iff

/-- A channel that is changed has the handles that the change says, and the others have those
that they had. -/
theorem handles_modifyChannel (hub : Hub α) (c other : ChannelId) {f : Channel → Channel}
    (g : Nat → Nat) (h : ∀ channel, (f channel).handles = g channel.handles)
    (known : c.index < hub.channels.length ∨ g 0 = 0) :
  (hub.modifyChannel c f).handles other =
    if c = other then g (hub.handles other) else hub.handles other
  := by
  rw [handles, channel?, modifyChannel, List.getElem?_modify, handles, channel?]
  by_cases hc : c = other
  · subst hc
    simp only [if_true]
    rcases Nat.lt_or_ge c.index hub.channels.length with hlt | hge
    · rw [List.getElem?_eq_getElem hlt]
      apply h
    · rw [List.getElem?_eq_none hge]
      apply (known.resolve_left (Nat.not_lt.mpr hge)).symm
  · simp only [hc, ChannelId.index_ne hc, if_false]
    cases hub.channels[other.index]? with
    | none => rfl
    | some channel => rfl

theorem handles_retain {c : ChannelId} (known : c.index < hub.channels.length)
    (other : ChannelId) :
  (hub.retain c).handles other = hub.handles other + if c = other then 1 else 0
  := by
  rw [retain, hub.handles_modifyChannel c other (· + 1) (fun _ => rfl) (.inl known)]
  split
  · rfl
  · rfl

theorem handles_release (hub : Hub α) (c other : ChannelId) :
  (hub.release c).handles other = hub.handles other - if c = other then 1 else 0
  := by
  rw [release, hub.handles_modifyChannel c other (· - 1) (fun _ => rfl) (.inr rfl)]
  split
  · rfl
  · rfl

theorem handles_releaseHeld (hub : Hub α) (held : Option ChannelId) (other : ChannelId) :
  (held.elim hub hub.release).handles other =
    hub.handles other - if held = some other then 1 else 0
  := by
  cases held with
  | none => rfl
  | some c =>
      simp only [Option.elim, Option.some.injEq]
      apply handles_release

theorem handles_openChannel (hub : Hub α) (other : ChannelId) :
  hub.openChannel.2.handles other =
    hub.handles other + if hub.openChannel.1 = other then 1 else 0
  := by
  change (((hub.channels ++ [⟨1, []⟩])[other.index]?).map Channel.handles).getD 0 =
    ((hub.channels[other.index]?).map Channel.handles).getD 0 +
      if ⟨hub.channels.length⟩ = other then 1 else 0
  by_cases hc : ⟨hub.channels.length⟩ = other
  · subst hc
    rw [List.getElem?_concat_length, List.getElem?_eq_none (Nat.le_refl _), if_pos rfl]
    rfl
  · rw [if_neg hc, Nat.add_zero]
    rcases Nat.lt_or_gt_of_ne (ChannelId.index_ne hc) with hgt | hlt
    · rw [List.getElem?_eq_none, List.getElem?_eq_none (Nat.le_of_lt hgt)]
      rw [List.length_append]
      apply hgt
    · rw [List.getElem?_append_left hlt]

theorem handles_congr {after : Hub α} (h : after.channels = hub.channels) (c : ChannelId) :
  after.handles c = hub.handles c
  := by
  rw [handles, channel?, h, handles, channel?]

/-- A new receiver takes a slot and no handle. -/
theorem handles_subscribe (hub : Hub α) (c : ChannelId) (n : Nat) (positive : 0 < n)
    (other : ChannelId) :
  (hub.subscribe c n positive).2.handles other = hub.handles other
  := by
  have hmodify := hub.handles_modifyChannel c other
    (f := fun channel =>
      { channel with slots := takeSlot hub.isLive ⟨hub.receivers.length⟩ channel.slots })
    id (fun _ => rfl) (.inr rfl)
  apply hmodify.trans
  apply ite_self

theorem channels_deposit (hub : Hub α) (r : ReceiverId) (value : α) :
  (hub.deposit r value).channels = hub.channels
  := by
  rw [deposit]
  split
  · rfl
  · rfl

theorem channels_sendCopies (hub : Hub α) (c : ChannelId) (copy : Nat → α) :
  (hub.sendCopies c copy).channels = hub.channels
  := by
  rw [sendCopies]
  generalize (hub.liveReceivers c).zipIdx 1 = copies
  induction copies generalizing hub with
  | nil => rfl
  | cons first copies ih => apply (ih _).trans (channels_deposit hub first.1 _)

theorem channels_take (hub : Hub α) (r : ReceiverId) :
  (hub.take r).2.channels = hub.channels
  := by
  rw [take]
  split
  · rfl
  · rfl

/-- The channel of a receiver that is not gone is there. -/
theorem Placed.channel_lt (placed : hub.Placed) {r : ReceiverId} {receiver : Receiver α}
    (h : hub.receiver? r = some receiver) :
  receiver.channel.index < hub.channels.length
  := by
  by_contra habsent
  have hcount := placed.count_eq h receiver.channel
  rw [slots, channel?, List.getElem?_eq_none (Nat.not_lt.mp habsent), if_pos rfl] at hcount
  cases hcount

end Hub

namespace HubSession

variable {α : Type} {session : HubSession α}

/-! ### Handles of a session -/

/-- A handle of a channel is held under a name: one of the channel itself or one of a sender. -/
def Holds (session : HubSession α) (c : ChannelId) : Prop :=
  ∃ name, session.channels.find? name = some c ∨ session.senders.find? name = some c

/-- What an action does with handles. -/
inductive HandleChange (session : HubSession α) : HubSession α → Prop
  /-- The handles stay as they are. -/
  | kept {after : HubSession α} (channels_eq : after.channels = session.channels)
      (senders_eq : after.senders = session.senders)
      (handles_eq : ∀ c, after.hub.handles c = session.hub.handles c) :
      HandleChange session after
  /-- A handle of a channel comes about and is stored under a name.  The channel is new, or
  there is a handle that is held of it. -/
  | storedChannel {hub : Hub (Numbered α)} {c : ChannelId} (name : String)
      (origin : session.Holds c ∨ c.index = session.hub.channels.length)
      (handles_eq : ∀ other,
        hub.handles other = session.hub.handles other + if c = other then 1 else 0) :
      HandleChange session ({ session with hub }.holdChannel name c)
  /-- A handle of a sender comes about and is stored under a name. -/
  | storedSender {hub : Hub (Numbered α)} {c : ChannelId} (name : String)
      (origin : session.Holds c ∨ c.index = session.hub.channels.length)
      (handles_eq : ∀ other,
        hub.handles other = session.hub.handles other + if c = other then 1 else 0) :
      HandleChange session ({ session with hub }.holdSender name c)
  /-- A handle of a channel is dropped. -/
  | droppedChannel {name : String} {c : ChannelId}
      (held : session.channels.find? name = some c) :
      HandleChange session
        { session with
          hub := session.hub.release c
          channels := session.channels.erase name }
  /-- A handle of a sender is dropped. -/
  | droppedSender {name : String} {c : ChannelId}
      (held : session.senders.find? name = some c) :
      HandleChange session
        { session with
          hub := session.hub.release c
          senders := session.senders.erase name }

theorem handleChange_of_drop? {name : String} {after : HubSession α}
    (h : session.drop? name = some after) :
  session.HandleChange after
  := by
  rw [drop?] at h
  split at h
  · rename_i hc
    cases h
    apply HandleChange.droppedChannel hc
  · rename_i hc _
    cases h
    apply HandleChange.droppedSender hc
  · cases h
    exact .kept rfl rfl fun _ => rfl
  · cases h

theorem handleChange_perform (regular : session.Regular) (action : HubAction α) :
  session.HandleChange (session.perform action).2
  := by
  have same : session.HandleChange session := .kept rfl rfl fun _ => rfl
  cases action with
  | create name =>
      apply HandleChange.storedChannel
      · right
        rfl
      · apply Hub.handles_openChannel
  | clone source name =>
      rw [perform]
      split
      · rename_i c hc
        apply HandleChange.storedChannel name (.inl ⟨source, .inl hc⟩)
        apply Hub.handles_retain (regular.channels_known _ c hc)
      · rename_i c hc _
        apply HandleChange.storedSender name (.inl ⟨source, .inr hc⟩)
        apply Hub.handles_retain (regular.senders_known _ c hc)
      · apply same
  | sender channel name =>
      rw [perform]
      split
      · rename_i c hc
        apply HandleChange.storedSender name (.inl ⟨channel, .inl hc⟩)
        apply Hub.handles_retain (regular.channels_known _ c hc)
      · apply same
  | receiver source name capacity =>
      obtain hsame | ⟨c, positive, -, hafter⟩ :=
        session.perform_receiver source name capacity
      · rw [hsame]
        apply same
      · rw [hafter]
        refine .kept rfl rfl ?_
        intro other
        have hsubscribe := session.hub.handles_subscribe c capacity positive other
        rw [holdReceiver]
        cases session.receivers.find? name with
        | none => apply hsubscribe
        | some old => apply hsubscribe
  | send sender value =>
      cases hsender : session.senders.find? sender with
      | none =>
          rw [perform, hsender]
          apply same
      | some c =>
          rw [perform_send hsender]
          refine .kept rfl rfl ?_
          apply Hub.handles_congr
          apply Hub.channels_sendCopies
  | take name =>
      cases hname : session.receivers.find? name with
      | none =>
          rw [perform, hname]
          apply same
      | some r =>
          rw [perform_take hname]
          refine .kept rfl rfl ?_
          apply Hub.handles_congr
          apply Hub.channels_take
  | receive name =>
      cases hname : session.receivers.find? name with
      | none =>
          rw [perform, hname]
          apply same
      | some r =>
          obtain ⟨reason, hperform⟩ := perform_receive hname
          rw [hperform]
          refine .kept rfl rfl ?_
          apply Hub.handles_congr
          apply Hub.channels_take
  | drop name =>
      rw [perform]
      split
      · rename_i after hafter
        apply handleChange_of_drop? hafter
      · apply same

/-! ### The account of the handles -/

/-- The handles that the channels count are those that are held under names. -/
structure Counted (session : HubSession α) : Prop where
  channels_distinct : session.channels.Distinct
  senders_distinct : session.senders.Distinct
  handles_eq : ∀ c, session.hub.handles c =
    Named.occurrences session.channels c + Named.occurrences session.senders c

namespace Counted

/-- A channel counts no handle exactly when none is held. -/
theorem handles_eq_zero_iff (counted : session.Counted) (c : ChannelId) :
  session.hub.handles c = 0 ↔ ¬ session.Holds c
  := by
  obtain ⟨channels, senders, handles⟩ := counted
  rw [handles, Nat.add_eq_zero_iff, channels.occurrences_eq_zero_iff,
    senders.occurrences_eq_zero_iff, Holds, not_exists, ← forall_and]
  simp only [not_or, ne_eq]

/-- What happens to handles keeps the account.  A handle that is stored is counted before the
one that it replaces is dropped. -/
theorem of_handleChange (counted : session.Counted) {after : HubSession α}
    (change : session.HandleChange after) :
  after.Counted
  := by
  obtain ⟨channels, senders, handles⟩ := counted
  cases change with
  | kept channels_eq senders_eq handles_eq =>
      refine ⟨channels_eq ▸ channels, senders_eq ▸ senders, ?_⟩
      intro c
      rw [handles_eq, handles, channels_eq, senders_eq]
  | @storedChannel hub c name origin handles_eq =>
      refine ⟨channels.insert name c, senders, ?_⟩
      intro other
      have hreplaced := channels.occurrences_insert name c other
      simp only [holdChannel, Hub.handles_releaseHeld, handles_eq, handles]
      omega
  | @storedSender hub c name origin handles_eq =>
      refine ⟨channels, senders.insert name c, ?_⟩
      intro other
      have hreplaced := senders.occurrences_insert name c other
      simp only [holdSender, Hub.handles_releaseHeld, handles_eq, handles]
      omega
  | @droppedChannel name c held =>
      refine ⟨channels.erase name, senders, ?_⟩
      intro other
      have herased := channels.occurrences_erase name other
      simp only [held, Option.some.injEq] at herased
      simp only [Hub.handles_release, handles]
      omega
  | @droppedSender name c held =>
      refine ⟨channels, senders.erase name, ?_⟩
      intro other
      have herased := senders.occurrences_erase name other
      simp only [held, Option.some.injEq] at herased
      simp only [Hub.handles_release, handles]
      omega

end Counted

theorem counted_performAll (actions : List (HubAction α)) :
  (performAll {} actions).Counted
  := by
  induction actions using List.reverseRecOn with
  | nil => exact ⟨List.nodup_nil, List.nodup_nil, fun _ => rfl⟩
  | append_singleton actions action ih =>
      rw [performAll_append, performAll_singleton]
      apply ih.of_handleChange (handleChange_perform (regular_performAll actions) action)

/-- A channel of which a handle is held after an action is one of which a handle was held
before, or a new one. -/
theorem HandleChange.holds {after : HubSession α} (change : session.HandleChange after)
    {c : ChannelId} (h : after.Holds c) :
  session.Holds c ∨ c.index = session.hub.channels.length
  := by
  obtain ⟨other, hother⟩ := h
  cases change with
  | kept channels_eq senders_eq handles_eq =>
      left
      rw [channels_eq, senders_eq] at hother
      exact ⟨other, hother⟩
  | storedChannel name origin handles_eq =>
      rcases hother with hchannel | hsender
      · rcases Named.find?_insert_eq_some.mp hchannel with ⟨-, rfl⟩ | ⟨-, hold⟩
        · apply origin
        · exact .inl ⟨other, .inl hold⟩
      · exact .inl ⟨other, .inr hsender⟩
  | storedSender name origin handles_eq =>
      rcases hother with hchannel | hsender
      · exact .inl ⟨other, .inl hchannel⟩
      · rcases Named.find?_insert_eq_some.mp hsender with ⟨-, rfl⟩ | ⟨-, hold⟩
        · apply origin
        · exact .inl ⟨other, .inr hold⟩
  | droppedChannel held =>
      left
      exact ⟨other, hother.imp_left fun hfound => (Named.find?_erase_eq_some.mp hfound).2⟩
  | droppedSender held =>
      left
      exact ⟨other, hother.imp_right fun hfound => (Named.find?_erase_eq_some.mp hfound).2⟩

/-! ### What is received from a closed channel -/

/-- The message that a receiver gets by an action. -/
def received? (session : HubSession α) (r : ReceiverId) (action : HubAction α) :
    Option (Numbered α) :=
  match action, (session.perform action).1 with
  | .take name, .message message | .receive name, .message message =>
      if session.receivers.find? name = some r then some message else none
  | _, _ => none

/-- The messages that a receiver gets by actions, one after the other. -/
def received (session : HubSession α) (r : ReceiverId) :
    List (HubAction α) → List (Numbered α)
  | [] => []
  | action :: actions =>
      (session.received? r action).toList ++ (session.perform action).2.received r actions

theorem received_concat (session : HubSession α) (r : ReceiverId) (actions : List (HubAction α))
    (action : HubAction α) :
  session.received r (actions ++ [action]) =
    session.received r actions ++ ((session.performAll actions).received? r action).toList
  := by
  induction actions generalizing session with
  | nil => apply List.append_nil
  | cons first actions ih =>
      rw [List.cons_append, received, ih, received, List.append_assoc]
      rfl

/-- What a receiver gets by an action is the head of its queue, if the action takes it. -/
theorem received?_eq (regular : session.Regular) (c : ChannelId) (r : ReceiverId)
    (action : HubAction α) :
  session.received? r action =
    match session.event? c r action with
    | some .takeHead => (session.hub.waiting r).head?
    | _ => none
  := by
  cases action with
  | create name => rfl
  | clone source name => rfl
  | sender channel name => rfl
  | receiver source name capacity => rfl
  | send sender value =>
      rw [event?_send]
      split
      · rename_i hevent
        split at hevent
        · cases hevent
        · cases hevent
      · rfl
  | take name =>
      unfold received? event?
      cases hreply : (session.perform (.take name)).1 with
      | message message =>
          by_cases hname : session.receivers.find? name = some r
          · have hhead := regular.message?_take hname
            rw [hreply] at hhead
            simp only [hname, if_true]
            apply hhead
          · simp only [hname, if_false]
      | none => rfl
      | failed reason => rfl
      | zeroCapacity => rfl
      | unknownName => rfl
  | receive name =>
      unfold received? event?
      cases hreply : (session.perform (.receive name)).1 with
      | message message =>
          by_cases hname : session.receivers.find? name = some r
          · have hhead := regular.message?_receive hname
            rw [hreply] at hhead
            simp only [hname, if_true]
            apply hhead
          · simp only [hname, if_false]
      | none => rfl
      | failed reason => rfl
      | zeroCapacity => rfl
      | unknownName => rfl
  | drop name => rfl

/-- Nothing is appended to the queue of a receiver when no handle of its channel is held. -/
theorem event?_ne_append {c : ChannelId} (closed : ¬ session.Holds c) (r : ReceiverId)
    (action : HubAction α) (value : α) :
  session.event? c r action ≠ some (.append value)
  := by
  intro hevent
  unfold event? at hevent
  split at hevent
  · split at hevent
    · rename_i hsender
      apply closed ⟨_, .inr hsender⟩
    · cases hevent
  · split at hevent
    · cases hevent
    · cases hevent
  · split at hevent
    · cases hevent
    · cases hevent
  · cases hevent

/-- When no handle of its channel is held, a receiver gets the head of what waits for it, and
the rest still waits. -/
theorem received?_append_waiting (regular : session.Regular) {r : ReceiverId}
    {before after : Receiver (Numbered α)} (hbefore : session.hub.receiver? r = some before)
    (closed : ¬ session.Holds before.channel) {action : HubAction α}
    (hafter : (session.perform action).2.hub.receiver? r = some after)
    (follows : Follows (session.event? before.channel r action) before after) :
  (session.received? r action).toList ++ (session.perform action).2.hub.waiting r =
    session.hub.waiting r
  := by
  have hnone := event?_ne_append closed r action
  obtain ⟨messages, represents⟩ := regular.reachable.sound r before hbefore
  rw [received?_eq regular before.channel r action,
    Hub.waiting_of_receiver? hbefore represents]
  generalize session.event? before.channel r action = event at follows hnone ⊢
  cases follows with
  | idle =>
      rw [Hub.waiting_of_receiver? hafter represents]
      rfl
  | append => cases hnone _ rfl
  | takeHead =>
      rw [Hub.waiting_of_receiver? hafter represents.pop.2]
      cases messages with
      | nil => rfl
      | cons message messages => rfl

/-! ### Runs after the last handle -/

/-- Receivers that are gone keep their number. -/
theorem Outcome.length_le {action : HubAction α} {next : HubSession α}
    (outcome : session.Outcome action next) :
  session.hub.receivers.length ≤ next.hub.receivers.length
  := by
  cases outcome with
  | handles hub_eq names_eq event_eq => apply Nat.le_of_eq (congrArg List.length hub_eq).symm
  | subscribed positive known =>
      rw [(places_holdReceiver _ _ _).length_eq]
      change _ ≤ (session.hub.receivers ++ [some _]).length
      rw [List.length_append]
      apply Nat.le_succ
  | sent value held => apply Nat.le_of_eq (Hub.places_sendCopies _ _ _).length_eq.symm
  | taken held event_eq => apply Nat.le_of_eq (Hub.places_take _ _).length_eq.symm
  | dropped held => apply Nat.le_of_eq (Hub.places_unsubscribe _ _).length_eq.symm

theorem length_performAll (session : HubSession α) (actions : List (HubAction α)) :
  session.hub.receivers.length ≤ (session.performAll actions).hub.receivers.length
  := by
  induction actions using List.reverseRecOn with
  | nil => apply Nat.le_refl
  | append_singleton actions action ih =>
      rw [performAll_append, performAll_singleton]
      apply Nat.le_trans ih (outcome_perform _ action).length_le

theorem Follows.channel_eq {event : Option (QueueEvent α)}
    {before after : Receiver (Numbered α)} (follows : Follows event before after) :
  after.channel = before.channel
  := by
  cases follows with
  | idle => rfl
  | append => rfl
  | takeHead => rfl

/-- A receiver whose channel has no handle that is held stays without one, and what it gets and
what waits for it afterwards is together what waited for it. -/
theorem received_append_waiting (regular : session.Regular) {r : ReceiverId}
    {before : Receiver (Numbered α)} (hbefore : session.hub.receiver? r = some before)
    (closed : ¬ session.Holds before.channel) (actions : List (HubAction α))
    {after : Receiver (Numbered α)}
    (hafter : (session.performAll actions).hub.receiver? r = some after) :
  after.channel = before.channel ∧ ¬ (session.performAll actions).Holds before.channel ∧
    session.received r actions ++ (session.performAll actions).hub.waiting r =
      session.hub.waiting r
  := by
  induction actions using List.reverseRecOn generalizing after with
  | nil =>
      cases hbefore.symm.trans hafter
      exact ⟨rfl, closed, rfl⟩
  | append_singleton actions action ih =>
      have middle := regular.performAll actions
      rw [performAll_append, performAll_singleton] at hafter ⊢
      obtain ⟨receiver, hreceiver, follows⟩ | ⟨c, capacity, positive, creates, rfl⟩ :=
        (outcome_perform _ action).follows_or_creates middle hafter
      · obtain ⟨hchannel, hclosed, hreceived⟩ := ih hreceiver
        rw [← hchannel] at hclosed ⊢
        refine ⟨?_, ?_, ?_⟩
        · apply follows.channel_eq
        · intro holds
          rcases (handleChange_perform middle action).holds holds with hold | hnew
          · apply hclosed hold
          · apply Nat.ne_of_lt (middle.placed.channel_lt hreceiver) hnew
        · rw [received_concat, List.append_assoc,
            received?_append_waiting middle hreceiver hclosed hafter follows]
          apply hreceived
      · -- A new receiver has a number that no receiver had before.
        have hlt := Hub.index_lt_of_receiver? hbefore
        rw [creates.index_eq] at hlt
        cases Nat.not_lt.mpr (session.length_performAll actions) hlt

/-! ### Replies -/

theorem Held.exists_receiver? (held : session.Held) {name : String} {r : ReceiverId}
    (h : session.receivers.find? name = some r) :
  ∃ receiver, session.hub.receiver? r = some receiver
  := Hub.isLive_iff.mp ((held.isLive_iff r).mpr ⟨name, h⟩)

theorem reply_receive (regular : session.Regular) {name : String} {r : ReceiverId}
    (h : session.receivers.find? name = some r) :
  (session.perform (.receive name)).1 =
    (session.hub.waiting r).head?.elim
      (.failed (if session.hub.isClosed r then .closed else .idle)) .message
  := by
  rw [← regular.reachable.sound.take_eq_head?, perform, h]
  simp only [Hub.receive]
  obtain ⟨taken, hub⟩ := session.hub.take r
  cases taken with
  | none => rfl
  | some message => rfl

theorem reply_take (regular : session.Regular) {name : String} {r : ReceiverId}
    (h : session.receivers.find? name = some r) :
  (session.perform (.take name)).1 = (session.hub.waiting r).head?.elim .none .message
  := by
  rw [← regular.reachable.sound.take_eq_head?, perform_take h]

/-- What a receiver of a closed channel is told. -/
theorem reply_receive_iff (regular : session.Regular) (counted : session.Counted)
    {name : String} {r : ReceiverId} (h : session.receivers.find? name = some r)
    {receiver : Receiver (Numbered α)} (hreceiver : session.hub.receiver? r = some receiver) :
  (∀ message, (session.perform (.receive name)).1 = .message message ↔
      (session.hub.waiting r).head? = some message) ∧
    ((session.perform (.receive name)).1 = .failed .closed ↔
      session.hub.waiting r = [] ∧ ¬ session.Holds receiver.channel) ∧
    ((session.perform (.receive name)).1 = .failed .idle ↔
      session.hub.waiting r = [] ∧ session.Holds receiver.channel)
  := by
  have hclosed := (Hub.isClosed_iff hreceiver).trans (counted.handles_eq_zero_iff _)
  rw [reply_receive regular h]
  cases session.hub.waiting r with
  | nil =>
      cases hflag : session.hub.isClosed r with
      | true => simp [hclosed.mp hflag]
      | false =>
          have hopen : session.Holds receiver.channel := by
            by_contra hnone
            rw [hclosed.mpr hnone] at hflag
            cases hflag
          simp [hopen]
  | cons message messages => simp

/-- A receiver finds its channel closed exactly when no handle of it is held.  It receives the
first message that waits for it; when none waits, it is told that the channel is closed if no
handle is held, and otherwise that there is none at the moment.  After the last handle, no
action makes a handle again, and what waited for the receiver then is what it receives, in this
order, before it is told so for the first time.  From then on it is told nothing else. -/
theorem closed_exact_and_final (actions : List (HubAction α)) {name : String} {r : ReceiverId}
    (held : (performAll {} actions).receivers.find? name = some r) :
  let session := performAll {} actions
  let reply (session : HubSession α) (name : String) := (session.perform (.receive name)).1
  ∃ c, (session.hub.receiver? r).map Receiver.channel = some c ∧
    (session.hub.isClosed r = true ↔ ¬ session.Holds c) ∧
    (∀ message, reply session name = .message message ↔
      (session.hub.waiting r).head? = some message) ∧
    (reply session name = .failed .closed ↔
      session.hub.waiting r = [] ∧ ¬ session.Holds c) ∧
    (reply session name = .failed .idle ↔ session.hub.waiting r = [] ∧ session.Holds c) ∧
    (¬ session.Holds c → ∀ more other,
      (session.performAll more).receivers.find? other = some r →
        ¬ (session.performAll more).Holds c ∧
          session.received r more ++ (session.performAll more).hub.waiting r =
            session.hub.waiting r ∧
          (reply (session.performAll more) other = .failed .closed ↔
            session.received r more = session.hub.waiting r)) ∧
    (reply session name = .failed .closed → ∀ more other,
      (session.performAll more).receivers.find? other = some r →
        reply (session.performAll more) other = .failed .closed ∧
          ((session.performAll more).perform (.take other)).1 = .none)
  := by
  intro session reply
  have regular : session.Regular := regular_performAll actions
  have counted : session.Counted := counted_performAll actions
  obtain ⟨receiver, hreceiver⟩ := (held_performAll actions).exists_receiver? held
  obtain ⟨hmessage, hclosed, hidle⟩ := reply_receive_iff regular counted held hreceiver
  have hlater (more : List (HubAction α)) (other : String)
      (hother : (session.performAll more).receivers.find? other = some r)
      (hnone : ¬ session.Holds receiver.channel) :
      ¬ (session.performAll more).Holds receiver.channel ∧
        session.received r more ++ (session.performAll more).hub.waiting r =
          session.hub.waiting r ∧
        (reply (session.performAll more) other = .failed .closed ↔
          (session.performAll more).hub.waiting r = []) := by
    have hrun := performAll_append {} actions more
    have heldLater := held_performAll (actions ++ more)
    have countedLater := counted_performAll (actions ++ more)
    rw [hrun] at heldLater countedLater
    obtain ⟨later, hlater⟩ := heldLater.exists_receiver? hother
    obtain ⟨hchannel, hstill, hreceived⟩ :=
      received_append_waiting regular hreceiver hnone more hlater
    obtain ⟨-, hreply, -⟩ :=
      reply_receive_iff (regular.performAll more) countedLater hother hlater
    rw [hchannel, and_iff_left hstill] at hreply
    exact ⟨hstill, hreceived, hreply⟩
  refine ⟨receiver.channel, ?_, ?_, hmessage, hclosed, hidle, ?_, ?_⟩
  · rw [hreceiver]
    rfl
  · apply (Hub.isClosed_iff hreceiver).trans (counted.handles_eq_zero_iff _)
  · intro hnone more other hother
    obtain ⟨hstill, hreceived, hreply⟩ := hlater more other hother hnone
    refine ⟨hstill, hreceived, hreply.trans ?_⟩
    constructor
    · intro hempty
      rw [← hreceived, hempty, List.append_nil]
    · intro hall
      rw [← hall] at hreceived
      apply List.append_right_eq_self.mp hreceived
  · intro htold more other hother
    obtain ⟨hempty, hnone⟩ := hclosed.mp htold
    obtain ⟨-, hreceived, hreply⟩ := hlater more other hother hnone
    rw [hempty, List.append_eq_nil_iff] at hreceived
    refine ⟨hreply.mpr hreceived.2, ?_⟩
    rw [reply_take (regular.performAll more) hother, hreceived.2]
    rfl

/-- A receiver that two messages wait for when the last handle is dropped, that of a sender. -/
theorem closed_exact_and_final_two_messages :
  let session : HubSession Nat := performAll {}
    [.create "channel", .sender "channel" "sender", .receiver "channel" "receiver" 4,
      .send "sender" 1, .drop "channel", .clone "sender" "other", .drop "sender",
      .send "other" 2, .drop "other"]
  let more : List (HubAction Nat) := [.receive "receiver", .take "receiver"]
  session.receivers.find? "receiver" = some ⟨0⟩ ∧
    ¬ session.Holds ⟨0⟩ ∧
    session.hub.waiting ⟨0⟩ = [⟨1, 1⟩, ⟨2, 1⟩] ∧
    ((session.performAll more).perform (.receive "receiver")).1 = .failed .closed ∧
    session.received ⟨0⟩ more = session.hub.waiting ⟨0⟩
  := by
  intro session more
  have held : session.receivers.find? "receiver" = some ⟨0⟩ := by decide
  have heldLater : (session.performAll more).receivers.find? "receiver" = some ⟨0⟩ := by decide
  have hwaiting : session.hub.waiting ⟨0⟩ = [⟨1, 1⟩, ⟨2, 1⟩] := by decide
  have htold : ((session.performAll more).perform (.receive "receiver")).1 =
      .failed .closed := rfl
  obtain ⟨c, hchannel, hclosed, -, -, -, hlast, -⟩ := closed_exact_and_final _ held
  obtain rfl : ⟨0⟩ = c := Option.some.inj hchannel
  have hnone : ¬ session.Holds ⟨0⟩ := hclosed.mp (by decide)
  obtain ⟨-, -, hreply⟩ := hlast hnone more "receiver" heldLater
  exact ⟨held, hnone, hwaiting, htold, hreply.mp htold⟩

end HubSession

end FlightBus

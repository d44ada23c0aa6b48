import FlightBus.Proofs.Bus.DeliveryOrder
import Mathlib.Data.List.Chain
import Mathlib.Data.List.Perm.Basic

/-!
# Occupancy of slots

A channel does not lose slots.  A new receiver gets the first slot whose receiver is gone, so a
slot is added only when every slot has a receiver that is not gone.  Therefore a channel has as
many slots as it had receivers at the time when it had most of them.

When a receiver replaces another one under a name, it is created before the other one is
dropped.  For a moment both are there, so the hub in between counts as well.
-/

namespace FlightBus

namespace Hub

variable {α : Type} {hub next : Hub α} {c : ChannelId}

/-! ### Receivers of a channel -/

/-- The receivers of a channel that are not gone, in the order of creation. -/
def members (hub : Hub α) (c : ChannelId) : List ReceiverId :=
  ((List.range hub.receivers.length).map ReceiverId.mk).filter
    (fun r => (hub.receiver? r).any (·.channel = c))

theorem mem_members_iff {r : ReceiverId} :
  r ∈ hub.members c ↔ ∃ receiver, hub.receiver? r = some receiver ∧ receiver.channel = c
  := by
  rw [members, List.mem_filter, Option.any_eq_true]
  simp only [decide_eq_true_iff]
  apply and_iff_right_of_imp
  rintro ⟨receiver, hreceiver, -⟩
  apply List.mem_map.mpr
  exact ⟨r.index, List.mem_range.mpr (index_lt_of_receiver? hreceiver), rfl⟩

theorem nodup_members (hub : Hub α) (c : ChannelId) :
  (hub.members c).Nodup
  := by
  apply List.Nodup.filter
  apply List.nodup_range.map
  intro m n h
  cases h
  rfl

/-- In slot order, the receivers of a channel are the same as in the order of creation. -/
theorem Placed.liveReceivers_perm (placed : hub.Placed) (c : ChannelId) :
  (hub.liveReceivers c).Perm (hub.members c)
  := by
  rw [List.perm_ext_iff_of_nodup (placed.nodup_liveReceivers c) (hub.nodup_members c)]
  intro r
  rw [placed.mem_liveReceivers_iff, mem_members_iff]

theorem Placed.receiverCount_eq (placed : hub.Placed) (c : ChannelId) :
  hub.receiverCount c = (hub.members c).length
  := (placed.liveReceivers_perm c).length_eq

theorem existsUnique_of_count_eq_one {row : List ReceiverId} {r : ReceiverId}
    (h : row.count r = 1) :
  ∃! i : Nat, row[i]? = some r
  := by
  induction row with
  | nil => cases h
  | cons slot row ih =>
      by_cases hslot : slot = r
      · subst hslot
        rw [List.count_cons_self, Nat.add_eq_right, List.count_eq_zero] at h
        use 0, rfl
        rintro (_ | i) hi
        · rfl
        · cases h (List.mem_of_getElem? hi)
      · rw [List.count_cons_of_ne hslot] at h
        obtain ⟨i, hi, hunique⟩ := ih h
        use i + 1, hi
        rintro (_ | j) hj
        · cases hslot (Option.some.inj hj)
        · rw [hunique j hj]

/-- A receiver that is not gone has one slot. -/
theorem Placed.existsUnique_slot (placed : hub.Placed) {r : ReceiverId}
    (h : r ∈ hub.members c) :
  ∃! i : Nat, (hub.slots c)[i]? = some r
  := by
  obtain ⟨receiver, hreceiver, rfl⟩ := mem_members_iff.mp h
  apply existsUnique_of_count_eq_one
  rw [placed.count_eq hreceiver, if_pos rfl]

/-! ### Steps -/

/-- What happens to a hub at once: a receiver is created, or no slot is moved. -/
inductive Step (hub : Hub α) : Hub α → Prop
  | places {next : Hub α} (places : hub.Places next) : Step hub next
  | subscribe {c : ChannelId} (known : c.index < hub.channels.length) (capacity : Nat)
      (positive : 0 < capacity) : Step hub (hub.subscribe c capacity positive).2

theorem Placed.step (placed : hub.Placed) (step : hub.Step next) :
  next.Placed
  := by
  cases step with
  | places places => apply placed.of_places places
  | subscribe known capacity positive => apply placed.subscribe known

/-- A slot is added exactly when every slot has a receiver that is not gone. -/
theorem length_takeSlot (live : ReceiverId → Bool) (new : ReceiverId) (row : List ReceiverId) :
  (takeSlot live new row).length = max row.length ((row.filter live).length + 1)
  := by
  induction row with
  | nil => rfl
  | cons slot row ih =>
      rw [takeSlot]
      split
      · rename_i hlive
        rw [List.length_cons, ih, List.filter_cons_of_pos hlive, List.length_cons,
          List.length_cons]
        omega
      · rename_i hgone
        have hle := List.length_filter_le live row
        rw [List.filter_cons_of_neg hgone, List.length_cons, List.length_cons]
        omega

theorem receiverCount_le (hub : Hub α) (c : ChannelId) :
  hub.receiverCount c ≤ (hub.slots c).length
  := by
  rw [receiverCount, liveReceivers_eq]
  apply List.length_filter_le

/-- A new receiver is added to those of its channel. -/
theorem members_subscribe (hub : Hub α) (d : ChannelId) (capacity : Nat)
    (positive : 0 < capacity) (c : ChannelId) :
  (hub.subscribe d capacity positive).2.members c =
    hub.members c ++ if d = c then [⟨hub.receivers.length⟩] else []
  := by
  have hlength : (hub.subscribe d capacity positive).2.receivers.length =
      hub.receivers.length + 1 := List.length_append
  rw [members, hlength, List.range_succ, List.map_append, List.filter_append, members]
  congr 1
  · apply List.filter_congr
    intro r hr
    obtain ⟨i, hi, rfl⟩ := List.mem_map.mp hr
    rw [receiver?_subscribe, if_neg (Nat.ne_of_lt (List.mem_range.mp hi))]
  · rw [List.map_singleton, List.filter_singleton, receiver?_subscribe, if_pos rfl]
    by_cases hd : d = c
    · simp [hd]
    · simp [hd]

/-- After a step, a channel has the slots that it had, or more if it needs them for its
receivers. -/
theorem Placed.length_slots_step (placed : hub.Placed) (step : hub.Step next) (c : ChannelId) :
  (next.slots c).length = max (hub.slots c).length (next.receiverCount c)
  := by
  have hle := next.receiverCount_le c
  cases step with
  | places places =>
      rw [places.slots_eq] at hle ⊢
      omega
  | @subscribe d known capacity positive =>
      rw [slots_subscribe hub known] at hle ⊢
      split
      · rename_i hd
        subst hd
        have hcount : (hub.subscribe d capacity positive).2.receiverCount d =
            ((hub.slots d).filter hub.isLive).length + 1 := by
          rw [(placed.subscribe known capacity positive).receiverCount_eq, members_subscribe,
            if_pos rfl, List.length_append, ← placed.receiverCount_eq, receiverCount,
            liveReceivers_eq]
          rfl
        rw [length_takeSlot, hcount]
      · rename_i hd
        rw [if_neg hd] at hle
        omega

/-! ### Histories -/

/-- The largest number of receivers that a channel has in any of some hubs. -/
def peak (hubs : List (Hub α)) (c : ChannelId) : Nat :=
  hubs.foldl (fun most hub => max most (hub.members c).length) 0

theorem peak_concat (hubs : List (Hub α)) (hub : Hub α) (c : ChannelId) :
  peak (hubs ++ [hub]) c = max (peak hubs c) (hub.members c).length
  := List.foldl_concat ..

/-- A channel has as many slots as it had receivers at most, all along a history of steps. -/
theorem placed_of_isChain (hubs : List (Hub α)) (hub : Hub α)
    (first : (hubs ++ [hub]).head? = some {}) (chain : (hubs ++ [hub]).IsChain Step) :
  hub.Placed ∧ ∀ c, (hub.slots c).length = peak (hubs ++ [hub]) c
  := by
  induction hubs using List.reverseRecOn generalizing hub with
  | nil =>
      cases first
      exact ⟨placed_empty, fun _ => rfl⟩
  | append_singleton hubs before ih =>
      rw [List.isChain_append] at chain
      obtain ⟨hchain, -, hlast⟩ := chain
      have step : before.Step hub := by
        apply hlast before _ hub rfl
        rw [List.getLast?_concat]
        rfl
      rw [List.head?_append_of_ne_nil _ (List.concat_ne_nil before hubs)] at first
      obtain ⟨placed, hlength⟩ := ih before first hchain
      refine ⟨placed.step step, ?_⟩
      intro c
      rw [placed.length_slots_step step, hlength, (placed.step step).receiverCount_eq,
        peak_concat (hubs ++ [before])]

/-! ### Attaching step by step -/

/-- Computations on a hub that may panic.  What was done before a panic stays. -/
abbrev Steps (α : Type) := OptionT (StateM (Hub α))

/-- Allocates the buffer of a new receiver, which panics if the capacity is zero. -/
def allocate (capacity : Nat) : Steps α (RingBuffer α) :=
  OptionT.mk (pure (RingBuffer.new? capacity))

/-- Gives the next number to a receiver with this buffer. -/
def enlist (c : ChannelId) (buffer : RingBuffer α) : Steps α ReceiverId :=
  modifyGet fun hub =>
    (⟨hub.receivers.length⟩, { hub with receivers := hub.receivers ++ [some ⟨c, buffer⟩] })

/-- Puts a receiver into the first slot whose receiver is gone, or else into one behind the
others. -/
def occupy (c : ChannelId) (r : ReceiverId) : Steps α Unit :=
  modify fun hub => hub.modifyChannel c fun channel =>
    { channel with slots := takeSlot hub.isLive r channel.slots }

/-- Creates a receiver of a channel: its buffer first, and its slot last. -/
def attach (c : ChannelId) (capacity : Nat) : Steps α ReceiverId := do
  let buffer ← allocate capacity
  let r ← enlist c buffer
  occupy c r
  return r

/-- What the creation of a receiver comes to, and the hub after it. -/
def attached (hub : Hub α) (c : ChannelId) (capacity : Nat) : Option ReceiverId × Hub α :=
  (attach c capacity).run.run hub

theorem takeSlot_congr {live alive : ReceiverId → Bool} {new : ReceiverId}
    {row : List ReceiverId} (h : ∀ r ∈ row, live r = alive r) :
  takeSlot live new row = takeSlot alive new row
  := by
  induction row with
  | nil => rfl
  | cons slot row ih =>
      have hrow := ih fun r hr => h r (List.mem_cons_of_mem slot hr)
      rw [takeSlot, takeSlot, h slot List.mem_cons_self, hrow]

theorem modifyChannel_congr (hub : Hub α) {f g : Channel → Channel}
    (h : ∀ channel, hub.channel? c = some channel → f channel = g channel) :
  hub.modifyChannel c f = hub.modifyChannel c g
  := by
  rw [channel?] at h
  rw [modifyChannel, List.modify_eq_set_getElem?, modifyChannel, List.modify_eq_set_getElem?]
  cases hchannel : hub.channels[c.index]? with
  | none => rfl
  | some channel =>
      rw [hchannel] at h
      simp only [Option.map_eq_map, Option.map_some, h channel rfl]

/-- A receiver is created step by step as it is created at once, unless the capacity is zero.
Then nothing is changed. -/
theorem Placed.attached_eq (placed : hub.Placed) (c : ChannelId) (capacity : Nat) :
  hub.attached c capacity =
    if positive : 0 < capacity then
      (some (hub.subscribe c capacity positive).1, (hub.subscribe c capacity positive).2)
    else (none, hub)
  := by
  split
  · rename_i positive
    have hbuffer : RingBuffer.new? capacity = some (RingBuffer.new (α := α) capacity positive) :=
      dif_pos positive
    let enlisted : Hub α :=
      { hub with
        receivers := hub.receivers ++ [some ⟨c, RingBuffer.new capacity positive⟩] }
    have hrun : hub.attached c capacity =
        (some ⟨hub.receivers.length⟩, enlisted.modifyChannel c fun channel =>
          { channel with
            slots := takeSlot enlisted.isLive ⟨hub.receivers.length⟩ channel.slots }) := by
      rw [attached, attach, allocate, hbuffer]
      rfl
    rw [hrun]
    apply congrArg (Prod.mk _)
    apply enlisted.modifyChannel_congr
    intro channel hchannel
    congr 1
    apply takeSlot_congr
    intro r hr
    -- The new receiver has no slot yet.
    have hslots : hub.slots c = channel.slots :=
      congrArg (Option.elim · [] Channel.slots) hchannel
    have hlt : r.index < hub.receivers.length := by
      apply placed.created c
      rw [hslots]
      apply hr
    have hsame := hub.receiver?_subscribe c capacity positive r
    rw [if_neg (Nat.ne_of_lt hlt)] at hsame
    apply congrArg Option.isSome hsame
  · rename_i hzero
    have hbuffer : RingBuffer.new? (α := α) capacity = none := dif_neg hzero
    rw [attached, attach, allocate, hbuffer]
    rfl

end Hub

namespace HubSession

variable {α : Type} {session : HubSession α}

/-! ### Histories of sessions -/

/-- The hub after an action has created a receiver, and before the receiver that it replaces is
dropped. -/
def created? (session : HubSession α) : HubAction α → Option (Hub (Numbered α))
  | .receiver source _ capacity =>
      (session.channelOf? source).bind fun c =>
        (session.hub.subscribe? c capacity).map Prod.snd
  | _ => none

/-- The hubs that a session passes through in an action. -/
def passed (session : HubSession α) (action : HubAction α) : List (Hub (Numbered α)) :=
  (session.created? action).toList ++ [(session.perform action).2.hub]

/-- The hubs that a session passes through in actions, one after the other. -/
def history (session : HubSession α) : List (HubAction α) → List (Hub (Numbered α))
  | [] => []
  | action :: actions => session.passed action ++ (session.perform action).2.history actions

theorem subscribe?_eq (hub : Hub (Numbered α)) (c : ChannelId) (capacity : Nat) :
  hub.subscribe? c capacity =
    if positive : 0 < capacity then some (hub.subscribe c capacity positive) else none
  := by
  rw [Hub.subscribe?, RingBuffer.new?]
  split
  · rfl
  · rfl

theorem passed_of_ne {action : HubAction α}
    (h : ∀ source name capacity, action ≠ .receiver source name capacity) :
  session.passed action = [(session.perform action).2.hub]
  := by
  cases action with
  | receiver source name capacity => cases h source name capacity rfl
  | create name => rfl
  | clone source name => rfl
  | sender channel name => rfl
  | send sender value => rfl
  | take name => rfl
  | receive name => rfl
  | drop name => rfl

/-- A session goes from one hub to the next by steps. -/
theorem isChain_passed (regular : session.Regular) (action : HubAction α)
    {rest : List (Hub (Numbered α))}
    (h : ((session.perform action).2.hub :: rest).IsChain Hub.Step) :
  (session.hub :: (session.passed action ++ rest)).IsChain Hub.Step
  := by
  by_cases hreceiver : ∃ source name capacity, action = .receiver source name capacity
  · obtain ⟨source, name, capacity, rfl⟩ := hreceiver
    cases hc : session.channelOf? source with
    | none =>
        simp only [passed, created?, perform, hc, Option.bind_none, Option.toList_none,
          List.nil_append, List.singleton_append] at h ⊢
        apply h.cons_cons
        apply Hub.Step.places
        apply Hub.Places.refl
    | some c =>
        by_cases positive : 0 < capacity
        · simp only [passed, created?, perform, hc, Option.bind_some, subscribe?_eq,
            dif_pos positive, Option.map_some, Option.toList_some, List.cons_append] at h ⊢
          refine .cons_cons ?_ (.cons_cons ?_ h)
          · apply Hub.Step.subscribe (regular.channelOf?_lt hc)
          · apply Hub.Step.places
            apply places_holdReceiver
              { session with hub := (session.hub.subscribe c capacity positive).2 }
        · simp only [passed, created?, perform, hc, Option.bind_some, subscribe?_eq,
            dif_neg positive, Option.map_none, Option.toList_none, List.nil_append,
            List.singleton_append] at h ⊢
          apply h.cons_cons
          apply Hub.Step.places
          apply Hub.Places.refl
  · have hne : ∀ source name capacity, action ≠ .receiver source name capacity := by
      intro source name capacity haction
      apply hreceiver ⟨source, name, capacity, haction⟩
    rw [passed_of_ne hne]
    apply h.cons_cons
    apply Hub.Step.places
    apply session.places_perform hne

theorem isChain_history (regular : session.Regular) (actions : List (HubAction α)) :
  (session.hub :: session.history actions).IsChain Hub.Step
  := by
  induction actions generalizing session with
  | nil => apply List.IsChain.singleton
  | cons action actions ih =>
      apply isChain_passed regular action
      apply ih (regular.perform action)

theorem getLast?_history (session : HubSession α) (actions : List (HubAction α)) :
  (session.hub :: session.history actions).getLast? = some (session.performAll actions).hub
  := by
  induction actions generalizing session with
  | nil => rfl
  | cons action actions ih =>
      have hrest := ih (session.perform action).2
      rw [history, passed, List.append_assoc, List.singleton_append, ← List.cons_append,
        List.getLast?_append, hrest]
      rfl

/-- An attempt to create a receiver with a capacity of zero is refused, and changes nothing. -/
theorem perform_receiver_zero {source : String} {c : ChannelId}
    (h : session.channelOf? source = some c) (name : String) :
  session.perform (.receiver source name 0) = (.zeroCapacity, session)
  := by
  rw [perform, h]
  rfl

/-- In every hub that a run passes through, a receiver that is not gone has one slot of its
channel, the number of receivers is that of the receivers that are not gone, and a channel has
as many slots as it has had receivers at most until then.  An attempt to create a receiver with
a capacity of zero panics before anything is changed. -/
theorem slots_eq_peak (actions : List (HubAction α)) :
  let session := performAll {} actions
  let hubs := {} :: history {} actions
  hubs.getLast? = some session.hub ∧
    (∀ before hub after, hubs = before ++ hub :: after → ∀ c,
      (∀ r ∈ hub.members c, ∃! i : Nat, (hub.slots c)[i]? = some r) ∧
        hub.receiverCount c = (hub.members c).length ∧
        (hub.slots c).length = Hub.peak (before ++ [hub]) c ∧
        ∀ capacity, hub.attached c capacity =
          if positive : 0 < capacity then
            (some (hub.subscribe c capacity positive).1,
              (hub.subscribe c capacity positive).2)
          else (none, hub)) ∧
    ∀ source name c, session.channelOf? source = some c →
      session.perform (.receiver source name 0) = (.zeroCapacity, session)
  := by
  intro session hubs
  refine ⟨getLast?_history {} actions, ?_, ?_⟩
  · intro before hub after hhubs c
    have chain : hubs.IsChain Hub.Step := isChain_history regular_empty actions
    have hsplit : hubs = (before ++ [hub]) ++ after := by
      rw [hhubs, List.append_assoc, List.singleton_append]
    have hfirst : hubs.head? = some {} := rfl
    rw [hsplit, List.head?_append_of_ne_nil _ (List.concat_ne_nil hub before)] at hfirst
    rw [hsplit] at chain
    obtain ⟨placed, hlength⟩ := Hub.placed_of_isChain before hub hfirst chain.left_of_append
    refine ⟨?_, placed.receiverCount_eq c, hlength c, placed.attached_eq c⟩
    intro r hr
    apply placed.existsUnique_slot hr
  · intro source name c hc
    apply perform_receiver_zero hc

/-- A receiver that replaces another one under its name: a channel that has one receiver before
and after that has two slots, because it had two in between. -/
theorem slots_eq_peak_replaced :
  let actions : List (HubAction Nat) :=
    [.create "channel", .receiver "channel" "receiver" 1, .receiver "channel" "receiver" 2]
  let hubs : List (Hub (Numbered Nat)) := {} :: history {} actions
  let hub := (performAll {} actions).hub
  hubs = hubs.dropLast ++ hub :: [] ∧
    hub.receiverCount ⟨0⟩ = 1 ∧
    (hub.slots ⟨0⟩).length = 2 ∧
    Hub.peak (hubs.dropLast ++ [hub]) ⟨0⟩ = 2
  := by
  intro actions hubs hub
  have hhubs : hubs = hubs.dropLast ++ hub :: [] := rfl
  have hslots : (hub.slots ⟨0⟩).length = 2 := rfl
  obtain ⟨-, hall, -⟩ := slots_eq_peak actions
  obtain ⟨-, -, hpeak, -⟩ := hall hubs.dropLast hub [] hhubs ⟨0⟩
  exact ⟨hhubs, rfl, hslots, hpeak.symm.trans hslots⟩

end HubSession

end FlightBus

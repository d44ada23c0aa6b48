import FlightBus.Proofs.Bus.RingBuffer

/-!
# Ring buffers as bounded queues

A bounded queue is a list that is never longer than its capacity.  When an element is pushed
into a queue that is full, the first element is displaced; popping takes the first element,
and clearing takes all.

A ring buffer that is pushed into, popped from and cleared does what a bounded queue does.
The slots that belong to no element are empty all the time, no slot is looked for that does
not exist, and clearing comes to an end.  So the elements that were pushed are those that
have left, followed by those that are still there, in the order in which they were pushed.
-/

namespace FlightBus

variable {α : Type}

/-! ### Bounded queues -/

/-- What can be done with a queue. -/
inductive QueueAction (α : Type)
  /-- Appends an element. -/
  | push (value : α)
  /-- Takes the oldest element. -/
  | pop
  /-- Takes all elements. -/
  | clear

/-- The element that an action appends, if it appends one. -/
def QueueAction.pushed? : QueueAction α → Option α
  | push value => some value
  | pop => none
  | clear => none

/-- What comes of an action on a queue with states of type `σ`. -/
structure QueueAnswer (α σ : Type) where
  /-- The element that is given back, if there is one. -/
  reply : Option α
  /-- The elements that leave, the oldest first. -/
  departed : List α
  /-- The queue after the action. -/
  after : σ

namespace BoundedQueue

/-- Performs an action on a queue of a capacity. -/
def answer (capacity : Nat) (values : List α) : QueueAction α → QueueAnswer α (List α)
  | .push value =>
    if values.length = capacity then
      ⟨values.head?, values.head?.toList, values.tail ++ [value]⟩
    else
      ⟨none, [], values ++ [value]⟩
  | .pop => ⟨values.head?, values.head?.toList, values.tail⟩
  | .clear => ⟨none, values, []⟩

/-- The elements of a queue after actions, in order. -/
def performAll (capacity : Nat) (values : List α) (actions : List (QueueAction α)) : List α :=
  actions.foldl (fun values action => (answer capacity values action).after) values

/-- What leaves a queue and what is then left are what was there and what is appended. -/
theorem departed_append_after (capacity : Nat) (values : List α) (action : QueueAction α)
    (positive : 0 < capacity) :
  (answer capacity values action).departed ++ (answer capacity values action).after =
    values ++ action.pushed?.toList
  := by
  cases action with
  | push value =>
      rw [answer]
      split
      · rename_i hfull
        cases values with
        | nil =>
            rw [List.length_nil] at hfull
            omega
        | cons oldest values => rfl
      · rfl
  | pop =>
      cases values with
      | nil => rfl
      | cons oldest values =>
          symm
          apply List.append_nil
  | clear => rfl

end BoundedQueue

namespace RingBuffer

/-! ### Checks -/

/-- Takes the content of the slot at an index, if there is such a slot. -/
def takeAt? (buffer : RingBuffer α) (index : Nat) : Option (Option α × RingBuffer α) :=
  if index < buffer.capacity then
    some (buffer.slot index, { buffer with slots := buffer.slots.setIfInBounds index none })
  else
    none

/-- Stores an element in the slot at an index, if there is such a slot. -/
def storeAt? (buffer : RingBuffer α) (index : Nat) (value : α) : Option (RingBuffer α) :=
  if index < buffer.capacity then
    some { buffer with slots := buffer.slots.setIfInBounds index (some value) }
  else
    none

/-- The index of the slot behind the one at an index, if the ring has slots. -/
def next? (buffer : RingBuffer α) (index : Nat) : Option Nat :=
  if buffer.capacity = 0 then none else some (buffer.next index)

/-- The number of elements, if no number on the way to it is negative. -/
def count? (buffer : RingBuffer α) : Option Nat :=
  if buffer.isEmpty then
    some 0
  else if buffer.capacity = 0 ∨ buffer.tail + buffer.capacity < buffer.head + 1 then
    none
  else
    some buffer.count

/-- Takes the content of the slot at the head and moves the head on, with checked accesses. -/
def dropOldest? (buffer : RingBuffer α) : Option (Option α × RingBuffer α) := do
  let (oldest, buffer) ← buffer.takeAt? buffer.head
  let head ← buffer.next? buffer.head
  some (oldest, { buffer with head })

/-- Stores an element in the slot at the tail and moves the tail on, with checked accesses. -/
def storeNewest? (buffer : RingBuffer α) (value : α) : Option (RingBuffer α) := do
  let buffer ← buffer.storeAt? buffer.tail value
  let tail ← buffer.next? buffer.tail
  some { buffer with tail, isEmpty := false }

/-- Appends an element with checked accesses. -/
def push? (buffer : RingBuffer α) (value : α) : Option (Option α × RingBuffer α) := do
  let (displaced, buffer) ← if buffer.isFull then buffer.dropOldest? else some (none, buffer)
  let buffer ← buffer.storeNewest? value
  some (displaced, buffer)

/-- Takes the oldest element with checked accesses, and fails as well if the slot at the head
of a buffer with elements is empty. -/
def pop? (buffer : RingBuffer α) : Option (Option α × RingBuffer α) :=
  if buffer.isEmpty then
    some (none, buffer)
  else do
    let (oldest, buffer) ← buffer.dropOldest?
    if oldest.isNone then
      none
    else
      some (oldest, { buffer with isEmpty := buffer.head == buffer.tail })

/-- Pops with checked accesses until there is nothing to pop, no more often than the given
number. -/
def clearWithin? : Nat → RingBuffer α → Option (List α × RingBuffer α)
  | 0, _ => none
  | pops + 1, buffer => do
    match ← buffer.pop? with
    | (none, buffer) => some ([], buffer)
    | (some value, buffer) =>
        let (values, buffer) ← clearWithin? pops buffer
        some (value :: values, buffer)

/-! ### Actions -/

/-- Performs an action. -/
def answer (buffer : RingBuffer α) : QueueAction α → QueueAnswer α (RingBuffer α)
  | .push value => ⟨(buffer.push value).1, (buffer.push value).1.toList, (buffer.push value).2⟩
  | .pop => ⟨buffer.pop.1, buffer.pop.1.toList, buffer.pop.2⟩
  | .clear => ⟨none, buffer.popAll.1, buffer.clear⟩

/-- Performs an action with checked accesses.  For clearing there are as many pops as the
capacity, and one more. -/
def answer? (buffer : RingBuffer α) : QueueAction α → Option (QueueAnswer α (RingBuffer α))
  | .push value => do
    let (displaced, buffer) ← buffer.push? value
    some ⟨displaced, displaced.toList, buffer⟩
  | .pop => do
    let (value, buffer) ← buffer.pop?
    some ⟨value, value.toList, buffer⟩
  | .clear => do
    let (values, buffer) ← clearWithin? (buffer.capacity + 1) buffer
    some ⟨none, values, buffer⟩

/-- The buffer after actions, in order. -/
def performAll (buffer : RingBuffer α) (actions : List (QueueAction α)) : RingBuffer α :=
  actions.foldl (fun buffer action => (buffer.answer action).after) buffer

/-- The elements that leave a buffer during actions, the first to leave first. -/
def departedAll (buffer : RingBuffer α) : List (QueueAction α) → List α
  | [] => []
  | action :: actions =>
      (buffer.answer action).departed ++ (buffer.answer action).after.departedAll actions

/-! ### Slots without an element -/

variable {buffer : RingBuffer α} {value : α} {values : List α}

/-- The slots behind the first `n` from the head on are empty. -/
def Vacant (buffer : RingBuffer α) (n : Nat) : Prop :=
  ∀ i, n ≤ i → i < buffer.capacity →
    buffer.slot ((buffer.head + i) % buffer.capacity) = none

/-- A buffer mirrors a list: it represents the list, and the slots that belong to no element
of the list are empty. -/
structure Mirrors (buffer : RingBuffer α) (values : List α) : Prop
    extends Represents buffer values where
  vacant : buffer.Vacant values.length

/-- Without its first element the slot at the head is empty. -/
theorem Vacant.dropOldest (holds : buffer.Holds (value :: values))
    (vacant : buffer.Vacant (value :: values).length) :
  buffer.dropOldest.Vacant values.length
  := by
  have hcapacity := buffer.capacity_dropOldest
  have hhead : buffer.dropOldest.head = (buffer.head + 1) % buffer.capacity := rfl
  intro i hi hlt
  rw [hcapacity] at hlt ⊢
  rw [hhead, Nat.mod_add_mod, Nat.add_assoc, Nat.add_comm 1 i,
    slot_of_slots_eq rfl holds.head_lt]
  split
  · rfl
  · rename_i hother
    apply vacant (i + 1) (Nat.succ_le_succ hi)
    -- The last place of the ring from the new head on is the old head.
    apply Nat.lt_of_le_of_ne hlt
    intro (hlast : i + 1 = buffer.capacity)
    apply hother
    rw [hlast, Nat.add_mod_right, Nat.mod_eq_of_lt holds.head_lt]

/-- An element that is stored in the slot at the tail leaves the slots behind it empty. -/
theorem Vacant.store (holds : buffer.Holds values) (vacant : buffer.Vacant values.length)
    (value : α) (room : values.length < buffer.capacity) :
  Vacant { buffer with
    slots := buffer.slots.setIfInBounds buffer.tail (some value)
    tail := buffer.next buffer.tail
    isEmpty := false } (values ++ [value]).length
  := by
  have hcapacity {tail head : Nat} {isEmpty : Bool} :
      capacity ⟨buffer.slots.setIfInBounds buffer.tail (some value), tail, head, isEmpty⟩ =
        buffer.capacity := by
    simp only [capacity, Array.size_setIfInBounds]
  have htail : buffer.tail < buffer.capacity := by
    rw [holds.tail_eq]
    apply Nat.mod_lt
    omega
  intro i hi hlt
  rw [hcapacity] at hlt ⊢
  rw [List.length_append, List.length_singleton] at hi
  rw [slot_of_slots_eq rfl htail, holds.tail_eq, if_neg]
  · apply vacant i (Nat.le_of_succ_le hi) hlt
  · apply add_mod_ne holds.head_lt room hlt
    omega

namespace Mirrors

theorem new (n : Nat) (positive : 0 < n) :
  (RingBuffer.new n positive : RingBuffer α).Mirrors []
  := by
  constructor
  · apply represents_new
  · intro i _ hi
    have hslot : ∀ j, (RingBuffer.new n positive : RingBuffer α).slot j = none := by
      intro j
      rw [slot, RingBuffer.new, Array.getElem?_replicate]
      split
      · rfl
      · rfl
    apply hslot

theorem push_of_lt (mirrors : buffer.Mirrors values) (value : α)
    (room : values.length < buffer.capacity) :
  (buffer.push value).1 = none ∧ (buffer.push value).2.Mirrors (values ++ [value])
  := by
  have hfull : buffer.isFull = false := by
    rw [mirrors.isFull_eq]
    apply decide_eq_false
    omega
  obtain ⟨hnone, represents⟩ := mirrors.toRepresents.push_of_lt value room
  refine ⟨hnone, represents, ?_⟩
  rw [RingBuffer.push, hfull]
  apply Vacant.store mirrors.toHolds mirrors.vacant value room

theorem push_of_eq {oldest : α} (mirrors : buffer.Mirrors (oldest :: values)) (value : α)
    (full : (oldest :: values).length = buffer.capacity) :
  (buffer.push value).1 = some oldest ∧ (buffer.push value).2.Mirrors (values ++ [value])
  := by
  have hfull : buffer.isFull = true := by
    rw [mirrors.isFull_eq]
    apply decide_eq_true full
  have hroom : values.length < buffer.dropOldest.capacity := by
    rw [capacity_dropOldest, ← full]
    apply Nat.lt_succ_self
  obtain ⟨holdest, represents⟩ := mirrors.toRepresents.push_of_eq value full
  refine ⟨holdest, represents, ?_⟩
  rw [RingBuffer.push, hfull]
  apply Vacant.store mirrors.toHolds.dropOldest _ value hroom
  apply Vacant.dropOldest mirrors.toHolds mirrors.vacant

theorem pop (mirrors : buffer.Mirrors values) :
  buffer.pop.1 = values.head? ∧ buffer.pop.2.Mirrors values.tail
  := by
  obtain ⟨hhead, represents⟩ := mirrors.toRepresents.pop
  refine ⟨hhead, represents, ?_⟩
  cases values with
  | nil =>
      rw [mirrors.toRepresents.pop_nil]
      apply mirrors.vacant
  | cons oldest values =>
      have hoccupied : buffer.isEmpty = false := mirrors.isEmpty_eq
      rw [RingBuffer.pop, hoccupied]
      apply Vacant.dropOldest mirrors.toHolds mirrors.vacant

/-- Popping as many elements as there are, or more, leaves all slots empty. -/
theorem vacant_popUpTo (mirrors : buffer.Mirrors values) {n : Nat} (h : values.length ≤ n) :
  (popUpTo n buffer).2.Vacant 0
  := by
  induction n generalizing buffer values with
  | zero =>
      have hnil := List.eq_nil_of_length_eq_zero (Nat.le_zero.mp h)
      subst hnil
      apply mirrors.vacant
  | succ n ih =>
      cases values with
      | nil =>
          rw [popUpTo, mirrors.pop_nil]
          apply mirrors.vacant
      | cons oldest values =>
          obtain ⟨holdest, hrest⟩ := mirrors.pop
          have hpop : buffer.pop = (some oldest, buffer.pop.2) := by
            rw [← List.head?_cons, ← holdest]
          rw [popUpTo, hpop]
          apply ih hrest (Nat.le_of_succ_le_succ h)

/-- Popping all elements gives the list. -/
theorem popAll (mirrors : buffer.Mirrors values) :
  buffer.popAll.1 = values ∧ buffer.popAll.2.Mirrors []
  := by
  obtain ⟨hvalues, represents⟩ := mirrors.popAll_eq
  refine ⟨hvalues, represents, ?_⟩
  apply mirrors.vacant_popUpTo
  apply Nat.le_of_eq mirrors.count_eq.symm

/-- What a slot holds: an element of the list, or nothing. -/
theorem slots_eq (mirrors : buffer.Mirrors values) {i : Nat} (hi : i < buffer.capacity) :
  buffer.slots[(buffer.head + i) % buffer.capacity]? = some values[i]?
  := by
  have hslot : buffer.slot ((buffer.head + i) % buffer.capacity) = values[i]? := by
    rcases Nat.lt_or_ge i values.length with hlt | hge
    · apply mirrors.slot_eq i hlt
    · rw [mirrors.vacant i hge hi, List.getElem?_eq_none hge]
  have hplace : (buffer.head + i) % buffer.capacity < buffer.slots.size :=
    Nat.mod_lt _ (Nat.zero_lt_of_lt hi)
  rw [slot, Array.getElem?_eq_getElem hplace] at hslot
  rw [Array.getElem?_eq_getElem hplace, ← hslot]
  rfl

/-! ### Nothing fails -/

theorem tail_lt (mirrors : buffer.Mirrors values) :
  buffer.tail < buffer.capacity
  := by
  rw [mirrors.tail_eq]
  apply Nat.mod_lt
  apply Nat.zero_lt_of_lt mirrors.head_lt

end Mirrors

/-- The next index depends on the number of slots only. -/
theorem next?_eq {after : RingBuffer α} (h : after.capacity = buffer.capacity)
    (positive : 0 < buffer.capacity) (index : Nat) :
  after.next? index = some (buffer.next index)
  := by
  rw [next?, next, h, if_neg (Nat.ne_of_gt positive), next]

theorem dropOldest?_eq (h : buffer.head < buffer.capacity) :
  buffer.dropOldest? = some (buffer.slot buffer.head, buffer.dropOldest)
  := by
  have hnext :
      next? { buffer with slots := buffer.slots.setIfInBounds buffer.head none } buffer.head =
        some (buffer.next buffer.head) :=
    next?_eq buffer.capacity_dropOldest (Nat.zero_lt_of_lt h) buffer.head
  rw [dropOldest?, takeAt?, if_pos h]
  change (next? _ buffer.head).bind _ = _
  rw [hnext]
  rfl

theorem storeNewest?_eq (h : buffer.tail < buffer.capacity) (value : α) :
  buffer.storeNewest? value =
    some { buffer with
      slots := buffer.slots.setIfInBounds buffer.tail (some value)
      tail := buffer.next buffer.tail
      isEmpty := false }
  := by
  have hnext :
      next? { buffer with slots := buffer.slots.setIfInBounds buffer.tail (some value) }
          buffer.tail = some (buffer.next buffer.tail) := by
    apply next?_eq _ (Nat.zero_lt_of_lt h)
    apply Array.size_setIfInBounds
  rw [storeNewest?, storeAt?, if_pos h]
  change (next? _ buffer.tail).bind _ = _
  rw [hnext]
  rfl

theorem push?_eq (hhead : buffer.head < buffer.capacity) (htail : buffer.tail < buffer.capacity)
    (value : α) :
  buffer.push? value = some (buffer.push value)
  := by
  rw [push?, push]
  cases buffer.isFull with
  | false =>
      change (storeNewest? buffer value).bind _ = _
      rw [storeNewest?_eq htail]
      rfl
  | true =>
      have hroom : buffer.dropOldest.tail < buffer.dropOldest.capacity := by
        rw [capacity_dropOldest]
        apply htail
      rw [if_pos rfl, dropOldest?_eq hhead]
      change (storeNewest? buffer.dropOldest value).bind _ = _
      rw [storeNewest?_eq hroom]
      rfl

namespace Mirrors

theorem pop?_eq (mirrors : buffer.Mirrors values) :
  buffer.pop? = some buffer.pop
  := by
  cases values with
  | nil =>
      rw [mirrors.pop_nil, pop?, mirrors.isEmpty_eq]
      rfl
  | cons oldest values =>
      have hoccupied : buffer.isEmpty = false := mirrors.isEmpty_eq
      have holdest := mirrors.pop.1
      rw [RingBuffer.pop, hoccupied] at holdest ⊢
      change buffer.slot buffer.head = some oldest at holdest
      rw [pop?, hoccupied, dropOldest?_eq mirrors.head_lt, holdest]
      rfl

/-- Clearing comes to an end when nothing is left. -/
theorem clearWithin?_eq (mirrors : buffer.Mirrors values) {pops : Nat}
    (h : values.length < pops) :
  clearWithin? pops buffer = some (popUpTo values.length buffer)
  := by
  induction pops generalizing buffer values with
  | zero => cases h
  | succ pops ih =>
      rw [clearWithin?, mirrors.pop?_eq]
      cases values with
      | nil =>
          rw [mirrors.pop_nil]
          rfl
      | cons oldest values =>
          obtain ⟨holdest, hrest⟩ := mirrors.pop
          have hpop : buffer.pop = (some oldest, buffer.pop.2) := by
            rw [← List.head?_cons, ← holdest]
          have hothers := ih hrest (Nat.lt_of_succ_lt_succ h)
          rw [hpop]
          change (clearWithin? pops buffer.pop.2).bind _ = _
          rw [hothers, List.length_cons, popUpTo, hpop]
          rfl

/-- No access of an action fails, and the number of elements is found. -/
theorem answer?_eq (mirrors : buffer.Mirrors values) (action : QueueAction α) :
  buffer.answer? action = some (buffer.answer action)
  := by
  cases action with
  | push value =>
      rw [answer?, push?_eq mirrors.head_lt mirrors.tail_lt]
      rfl
  | pop =>
      rw [answer?, mirrors.pop?_eq]
      rfl
  | clear =>
      have hends := mirrors.clearWithin?_eq (Nat.lt_succ_of_le mirrors.length_le)
      rw [← mirrors.count_eq] at hends
      rw [answer?, hends]
      rfl

theorem count?_eq (mirrors : buffer.Mirrors values) :
  buffer.count? = some buffer.count
  := by
  have hhead := mirrors.head_lt
  rw [count?]
  split
  · rename_i hempty
    rw [count, if_pos hempty]
  · rw [if_neg]
    omega

/-! ### Actions on a mirrored list -/

/-- An action on a buffer is the action on the list that it mirrors. -/
theorem answer (mirrors : buffer.Mirrors values) (action : QueueAction α) :
  (buffer.answer action).reply = (BoundedQueue.answer buffer.capacity values action).reply ∧
    (buffer.answer action).departed =
      (BoundedQueue.answer buffer.capacity values action).departed ∧
    (buffer.answer action).after.Mirrors
      (BoundedQueue.answer buffer.capacity values action).after
  := by
  cases action with
  | push value =>
      rw [BoundedQueue.answer, RingBuffer.answer]
      split
      · rename_i hfull
        cases values with
        | nil =>
            have hhead := mirrors.head_lt
            rw [List.length_nil] at hfull
            omega
        | cons oldest values =>
            obtain ⟨hreply, hafter⟩ := mirrors.push_of_eq value hfull
            refine ⟨hreply, ?_, hafter⟩
            rw [hreply]
            rfl
      · rename_i hroom
        obtain ⟨hreply, hafter⟩ :=
          mirrors.push_of_lt value (Nat.lt_of_le_of_ne mirrors.length_le hroom)
        refine ⟨hreply, ?_, hafter⟩
        rw [hreply]
        rfl
  | pop =>
      obtain ⟨hreply, hafter⟩ := mirrors.pop
      refine ⟨hreply, ?_, hafter⟩
      rw [RingBuffer.answer, hreply]
      rfl
  | clear =>
      obtain ⟨hvalues, hafter⟩ := mirrors.popAll
      exact ⟨rfl, hvalues, hafter⟩

end Mirrors

theorem capacity_answer (buffer : RingBuffer α) (action : QueueAction α) :
  (buffer.answer action).after.capacity = buffer.capacity
  := by
  cases action with
  | push value => apply capacity_push
  | pop => apply capacity_pop
  | clear => apply capacity_popUpTo

theorem capacity_performAll (buffer : RingBuffer α) (actions : List (QueueAction α)) :
  (buffer.performAll actions).capacity = buffer.capacity
  := by
  induction actions generalizing buffer with
  | nil => rfl
  | cons action actions ih => apply (ih _).trans (buffer.capacity_answer action)

namespace Mirrors

/-- What has left a buffer, followed by what is left, is what was there, followed by what was
pushed. -/
theorem performAll (mirrors : buffer.Mirrors values) (actions : List (QueueAction α)) :
  (buffer.performAll actions).Mirrors
      (BoundedQueue.performAll buffer.capacity values actions) ∧
    values ++ actions.filterMap QueueAction.pushed? =
      buffer.departedAll actions ++ BoundedQueue.performAll buffer.capacity values actions
  := by
  induction actions generalizing buffer values with
  | nil =>
      refine ⟨mirrors, ?_⟩
      apply List.append_nil
  | cons action actions ih =>
      obtain ⟨-, hdeparted, hafter⟩ := mirrors.answer action
      obtain ⟨hmirrors, hconserved⟩ := ih hafter
      rw [capacity_answer] at hmirrors hconserved
      have hbalance := BoundedQueue.departed_append_after buffer.capacity values action
        (Nat.zero_lt_of_lt mirrors.head_lt)
      refine ⟨hmirrors, ?_⟩
      calc
        values ++ (action :: actions).filterMap QueueAction.pushed?
        _ = (values ++ action.pushed?.toList) ++ actions.filterMap QueueAction.pushed? := by
          rw [List.append_assoc]
          cases action with
          | push value => rfl
          | pop => rfl
          | clear => rfl
        _ = (buffer.answer action).departed ++
            ((BoundedQueue.answer buffer.capacity values action).after ++
              actions.filterMap QueueAction.pushed?) := by
          rw [← hbalance, hdeparted, List.append_assoc]
        _ = buffer.departedAll (action :: actions) ++
            BoundedQueue.performAll buffer.capacity values (action :: actions) := by
          rw [hconserved, ← List.append_assoc]
          rfl

end Mirrors

/-! ### Runs -/

/-- Whatever is done with a new ring buffer, it holds what a bounded queue of its capacity
holds: the slots from the head on hold the elements of the queue, the oldest first, and the
other slots are empty.  It tells the number of elements right, and whether it is empty or
full.  Whatever is done with it next, the reply and the elements that leave are those of the
queue, no slot is looked for that is not there, no number gets negative, and clearing comes
to an end.  The elements that have left, followed by those that are still there, are those
that were pushed, in order. -/
theorem refines_boundedQueue (capacity : Nat) (positive : 0 < capacity)
    (actions : List (QueueAction α)) :
  let buffer := (new capacity positive).performAll actions
  let values := BoundedQueue.performAll capacity [] actions
  buffer.capacity = capacity ∧ values.length ≤ capacity ∧ buffer.toList = values ∧
    (∀ i < capacity, buffer.slots[(buffer.head + i) % capacity]? = some values[i]?) ∧
    buffer.count? = some buffer.count ∧ buffer.count = values.length ∧
    buffer.isEmpty = values.isEmpty ∧ buffer.isFull = decide (values.length = capacity) ∧
    (∀ action, buffer.answer? action = some (buffer.answer action) ∧
      (buffer.answer action).reply = (BoundedQueue.answer capacity values action).reply ∧
      (buffer.answer action).departed = (BoundedQueue.answer capacity values action).departed ∧
      (buffer.answer action).after.toList =
        (BoundedQueue.answer capacity values action).after) ∧
    actions.filterMap QueueAction.pushed? =
      (new capacity positive).departedAll actions ++ buffer.toList
  := by
  intro buffer values
  have hnew := capacity_new (α := α) capacity positive
  have hcapacity : buffer.capacity = capacity :=
    (capacity_performAll _ actions).trans hnew
  obtain ⟨mirrors, hconserved⟩ := (Mirrors.new (α := α) capacity positive).performAll actions
  rw [hnew] at mirrors hconserved
  change buffer.Mirrors values at mirrors
  refine ⟨hcapacity, ?_, mirrors.toList_eq, ?_, mirrors.count?_eq, mirrors.count_eq,
    mirrors.isEmpty_eq, ?_, ?_, ?_⟩
  · rw [← hcapacity]
    apply mirrors.length_le
  · rw [← hcapacity]
    intro i hi
    apply mirrors.slots_eq hi
  · rw [← hcapacity]
    apply mirrors.isFull_eq
  · intro action
    obtain ⟨hreply, hdeparted, hafter⟩ := mirrors.answer action
    rw [hcapacity] at hreply hdeparted hafter
    exact ⟨mirrors.answer?_eq action, hreply, hdeparted, hafter.toList_eq⟩
  · rw [mirrors.toList_eq]
    apply hconserved

/-- Two slots and four elements: the first is displaced, the second is popped, and the others
are still there, across the end of the ring. -/
theorem refines_boundedQueue_wrapped :
  let actions : List (QueueAction Nat) := [.push 1, .push 2, .push 3, .pop, .push 4]
  let buffer := (new 2 (by decide)).performAll actions
  0 < 2 ∧ buffer.toList = [3, 4] ∧ buffer.slots[(buffer.head + 1) % 2]? = some (some 4) ∧
    buffer.isFull = true ∧ (buffer.answer .pop).reply = some 3 ∧
    [1, 2, 3, 4] = [1, 2] ++ buffer.toList
  := by
  intro actions buffer
  obtain ⟨-, -, hlist, hslots, -, -, -, hfull, hanswer, hconserved⟩ :=
    refines_boundedQueue 2 (by decide) actions
  exact ⟨by decide, hlist, hslots 1 (by decide), hfull, (hanswer .pop).2.1, hconserved⟩

end RingBuffer

end FlightBus

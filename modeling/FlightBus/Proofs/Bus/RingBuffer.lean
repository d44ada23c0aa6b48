import FlightBus.Bus.RingBuffer

/-!
# Ring buffers as lists

A ring buffer represents a list, its elements from the oldest to the newest.  Pushing
appends to the list and, if the list has as many elements as the capacity allows, drops its
first element; popping takes the first element.
-/

namespace FlightBus

/-! ### Places in a ring -/

/-- A place less than one turn away is found by at most one subtraction. -/
theorem add_mod_eq_ite {capacity head i : Nat} (hhead : head < capacity)
    (hi : i ≤ capacity) :
  (head + i) % capacity = if head + i < capacity then head + i else head + i - capacity
  := by
  split
  · apply Nat.mod_eq_of_lt
    assumption
  · rename_i hwrap
    rw [Nat.mod_eq_sub_mod (Nat.le_of_not_lt hwrap)]
    apply Nat.mod_eq_of_lt
    omega

/-- Places less than one turn away are different. -/
theorem add_mod_ne {capacity head i j : Nat} (hhead : head < capacity) (hi : i < capacity)
    (hj : j < capacity) (hne : i ≠ j) :
  (head + i) % capacity ≠ (head + j) % capacity
  := by
  rw [add_mod_eq_ite hhead (Nat.le_of_lt hi), add_mod_eq_ite hhead (Nat.le_of_lt hj)]
  split <;> split <;> omega

/-- Reading the elements of a list one after the other gives the list. -/
theorem filterMap_range_eq {α : Type} {values : List α} {f : Nat → Option α}
    (h : ∀ i < values.length, f i = values[i]?) :
  (List.range values.length).filterMap f = values
  := by
  induction values generalizing f with
  | nil => rfl
  | cons value values ih =>
      have hfirst : f 0 = some value := h 0 (Nat.zero_lt_succ _)
      rw [List.length_cons, List.range_succ_eq_map, List.filterMap_cons_some hfirst,
        List.filterMap_map, ih]
      intro i hi
      apply h (i + 1) (Nat.succ_lt_succ hi)

/-! ### Queues -/

/-- The elements of a queue of fixed capacity after one more was appended, for which the
oldest is discarded when the queue is full. -/
def enqueue {α : Type} (capacity : Nat) (values : List α) (value : α) : List α :=
  if values.length < capacity then values ++ [value] else values.tail ++ [value]

theorem map_enqueue {α β : Type} (f : α → β) (capacity : Nat) (values : List α) (value : α) :
  (enqueue capacity values value).map f = enqueue capacity (values.map f) (f value)
  := by
  rw [enqueue, enqueue, List.length_map]
  split
  · rw [List.map_append, List.map_singleton]
  · rw [List.map_append, List.map_singleton, List.map_tail]

namespace RingBuffer

variable {α : Type} {buffer : RingBuffer α} {value : α} {values : List α}

/-! ### Representation -/

/-- The slots of a buffer hold the elements of a list, from the head on, and the tail is
behind them. -/
structure Holds (buffer : RingBuffer α) (values : List α) : Prop where
  head_lt : buffer.head < buffer.capacity
  length_le : values.length ≤ buffer.capacity
  tail_eq : buffer.tail = (buffer.head + values.length) % buffer.capacity
  slot_eq : ∀ i < values.length,
    buffer.slot ((buffer.head + i) % buffer.capacity) = values[i]?

/-- A buffer represents a list: its slots hold the list, and its flag says whether the list
is empty. -/
structure Represents (buffer : RingBuffer α) (values : List α) : Prop
    extends Holds buffer values where
  isEmpty_eq : buffer.isEmpty = values.isEmpty

/-- What the slots hold after the content of one was replaced. -/
theorem slot_of_slots_eq {buffer after : RingBuffer α} {content : Option α} {i : Nat}
    (h : after.slots = buffer.slots.setIfInBounds i content) (hi : i < buffer.capacity)
    (j : Nat) :
  after.slot j = if i = j then content else buffer.slot j
  := by
  simp only [slot, h]
  by_cases hij : i = j
  · subst hij
    rw [if_pos rfl, Array.getElem?_setIfInBounds_self_of_lt hi]
    rfl
  · rw [if_neg hij, Array.getElem?_setIfInBounds_ne hij]

theorem capacity_dropOldest (buffer : RingBuffer α) :
  buffer.dropOldest.capacity = buffer.capacity
  := by
  simp only [dropOldest, capacity, Array.size_setIfInBounds]

theorem capacity_push (buffer : RingBuffer α) (value : α) :
  (buffer.push value).2.capacity = buffer.capacity
  := by
  rw [push, capacity, Array.size_setIfInBounds]
  split
  · apply capacity_dropOldest
  · rfl

theorem capacity_pop (buffer : RingBuffer α) :
  buffer.pop.2.capacity = buffer.capacity
  := by
  rw [pop]
  split
  · rfl
  · apply capacity_dropOldest

theorem capacity_popUpTo (n : Nat) (buffer : RingBuffer α) :
  (popUpTo n buffer).2.capacity = buffer.capacity
  := by
  induction n generalizing buffer with
  | zero => rfl
  | succ n ih =>
      have hpop := buffer.capacity_pop
      rw [popUpTo]
      split
      · rename_i rest hnone
        rw [hnone] at hpop
        apply hpop
      · rename_i value rest hsome
        rw [hsome] at hpop
        apply (ih rest).trans hpop

namespace Holds

/-- Dropping the oldest element drops the first of the list. -/
theorem dropOldest (holds : buffer.Holds (value :: values)) :
  buffer.dropOldest.Holds values
  := by
  have hcapacity := buffer.capacity_dropOldest
  have hlength := holds.length_le
  rw [List.length_cons] at hlength
  have hhead : buffer.dropOldest.head = (buffer.head + 1) % buffer.capacity := rfl
  have hplace (i : Nat) :
      ((buffer.head + 1) % buffer.capacity + i) % buffer.capacity =
        (buffer.head + (i + 1)) % buffer.capacity := by
    rw [Nat.mod_add_mod, Nat.add_assoc, Nat.add_comm 1 i]
  constructor
  · rw [hcapacity, hhead]
    apply Nat.mod_lt
    omega
  · omega
  · rw [hcapacity, hhead, hplace]
    apply holds.tail_eq
  · intro i hi
    have hother : buffer.head ≠ (buffer.head + (i + 1)) % buffer.capacity := by
      have hne := add_mod_ne holds.head_lt (Nat.lt_of_le_of_lt (Nat.zero_le _) hlength)
        (Nat.lt_of_lt_of_le (Nat.succ_lt_succ hi) hlength) (Nat.succ_ne_zero i).symm
      rw [Nat.add_zero, Nat.mod_eq_of_lt holds.head_lt] at hne
      apply hne
    rw [hcapacity, hhead, hplace, slot_of_slots_eq rfl holds.head_lt, if_neg hother]
    apply holds.slot_eq (i + 1)
    rw [List.length_cons]
    omega

/-- An element that is stored in the slot at the tail is the last of the list, if there is
room for it. -/
theorem store (holds : buffer.Holds values) (value : α)
    (room : values.length < buffer.capacity) :
  Holds { buffer with
    slots := buffer.slots.setIfInBounds buffer.tail (some value)
    tail := buffer.next buffer.tail
    isEmpty := false } (values ++ [value])
  := by
  have hcapacity {tail head : Nat} {isEmpty : Bool} :
      capacity ⟨buffer.slots.setIfInBounds buffer.tail (some value), tail, head, isEmpty⟩ =
        buffer.capacity := by
    simp only [capacity, Array.size_setIfInBounds]
  have htail : buffer.tail < buffer.capacity := by
    rw [holds.tail_eq]
    apply Nat.mod_lt
    omega
  constructor
  · rw [hcapacity]
    apply holds.head_lt
  · rw [hcapacity, List.length_append]
    apply room
  · rw [hcapacity, List.length_append, List.length_singleton, ← Nat.add_assoc]
    change (buffer.tail + 1) % buffer.capacity = _
    rw [holds.tail_eq, Nat.mod_add_mod]
  · intro i hi
    rw [List.length_append, List.length_singleton] at hi
    rw [hcapacity, slot_of_slots_eq rfl htail, holds.tail_eq]
    rcases Nat.lt_or_ge i values.length with hlt | hge
    · rw [if_neg, List.getElem?_append_left hlt]
      · apply holds.slot_eq i hlt
      · apply add_mod_ne holds.head_lt room (Nat.lt_trans hlt room) (Nat.ne_of_gt hlt)
    · have hlast : i = values.length := by omega
      subst hlast
      rw [if_pos rfl, List.getElem?_concat_length]

end Holds

/-! ### The operations -/

theorem capacity_new (n : Nat) (positive : 0 < n) :
  (new n positive : RingBuffer α).capacity = n
  := by
  rw [new, capacity, Array.size_replicate]

theorem represents_new (n : Nat) (positive : 0 < n) :
  (new n positive : RingBuffer α).Represents []
  := by
  constructor
  · constructor
    · rw [capacity_new]
      apply positive
    · apply Nat.zero_le
    · symm
      apply Nat.zero_mod
    · intro i hi
      cases hi
  · rfl

namespace Represents

/-- The number of elements is the length of the list. -/
theorem count_eq (represents : buffer.Represents values) :
  buffer.count = values.length
  := by
  rw [count, represents.isEmpty_eq]
  cases values with
  | nil => rfl
  | cons value values =>
      have hhead := represents.head_lt
      have hlength := represents.length_le
      rw [List.length_cons] at hlength
      rw [List.isEmpty_cons, if_neg (by simp), represents.tail_eq, List.length_cons,
        add_mod_eq_ite hhead hlength]
      congr 1
      split
      · rw [show buffer.head + (values.length + 1) + buffer.capacity - buffer.head - 1 =
          values.length + buffer.capacity by omega, Nat.add_mod_right]
        apply Nat.mod_eq_of_lt
        omega
      · rw [show buffer.head + (values.length + 1) - buffer.capacity + buffer.capacity -
          buffer.head - 1 = values.length by omega]
        apply Nat.mod_eq_of_lt
        omega

/-- A buffer is full if its list has as many elements as the capacity allows. -/
theorem isFull_eq (represents : buffer.Represents values) :
  buffer.isFull = decide (values.length = buffer.capacity)
  := by
  have hhead := represents.head_lt
  rw [isFull, represents.isEmpty_eq, represents.tail_eq,
    add_mod_eq_ite hhead represents.length_le]
  cases values with
  | nil =>
      symm
      apply decide_eq_false
      rw [List.length_nil]
      omega
  | cons value values =>
      have hlength := represents.length_le
      rw [List.length_cons] at hlength ⊢
      rw [List.isEmpty_cons, Bool.not_false, Bool.true_and]
      apply decide_eq_decide.mpr
      split
      · omega
      · omega

/-- The elements of a buffer are those of the list. -/
theorem toList_eq (represents : buffer.Represents values) :
  buffer.toList = values
  := by
  rw [toList, represents.count_eq]
  apply filterMap_range_eq
  apply represents.slot_eq

/-- Pushing into a buffer that is not full appends to the list. -/
theorem push_of_lt (represents : buffer.Represents values) (value : α)
    (room : values.length < buffer.capacity) :
  (buffer.push value).1 = none ∧ (buffer.push value).2.Represents (values ++ [value])
  := by
  have hfull : buffer.isFull = false := by
    rw [represents.isFull_eq]
    apply decide_eq_false
    omega
  rw [push, hfull]
  constructor
  · rfl
  · constructor
    · apply represents.toHolds.store value room
    · symm
      rw [List.isEmpty_eq_false_iff]
      apply List.append_ne_nil_of_right_ne_nil
      apply List.cons_ne_nil

/-- Pushing into a buffer that is full drops the first element of the list. -/
theorem push_of_eq {oldest : α} (represents : buffer.Represents (oldest :: values))
    (value : α) (full : (oldest :: values).length = buffer.capacity) :
  (buffer.push value).1 = some oldest ∧
    (buffer.push value).2.Represents (values ++ [value])
  := by
  have hfull : buffer.isFull = true := by
    rw [represents.isFull_eq]
    apply decide_eq_true full
  have holdest := represents.slot_eq 0 (Nat.zero_lt_succ _)
  rw [Nat.add_zero, Nat.mod_eq_of_lt represents.head_lt] at holdest
  have hroom : values.length < buffer.dropOldest.capacity := by
    rw [capacity_dropOldest, ← full]
    apply Nat.lt_succ_self
  rw [push, hfull]
  constructor
  · apply holdest
  · constructor
    · apply represents.toHolds.dropOldest.store value hroom
    · symm
      rw [List.isEmpty_eq_false_iff]
      apply List.append_ne_nil_of_right_ne_nil
      apply List.cons_ne_nil

/-- Pushing into a buffer is appending to a queue of its capacity. -/
theorem push (represents : buffer.Represents values) (value : α) :
  (buffer.push value).2.Represents (enqueue buffer.capacity values value)
  := by
  rw [enqueue]
  split
  · rename_i room
    apply (represents.push_of_lt value room).2
  · rename_i hfull
    have hlength := Nat.le_antisymm represents.length_le (Nat.le_of_not_lt hfull)
    cases values with
    | nil =>
        have hhead := represents.head_lt
        rw [List.length_nil] at hlength
        omega
    | cons oldest values => apply (represents.push_of_eq value hlength).2

theorem pop_nil (represents : buffer.Represents []) :
  buffer.pop = (none, buffer)
  := by
  rw [pop, represents.isEmpty_eq]
  rfl

/-- Popping takes the first element of the list. -/
theorem pop_cons (represents : buffer.Represents (value :: values)) :
  buffer.pop.1 = some value ∧ buffer.pop.2.Represents values
  := by
  have hoccupied : buffer.isEmpty = false := represents.isEmpty_eq
  have hvalue := represents.slot_eq 0 (Nat.zero_lt_succ _)
  rw [Nat.add_zero, Nat.mod_eq_of_lt represents.head_lt] at hvalue
  have hrest := represents.toHolds.dropOldest
  have hlength : values.length < buffer.dropOldest.capacity := by
    rw [capacity_dropOldest]
    apply represents.length_le
  have hempty : (buffer.dropOldest.head == buffer.dropOldest.tail) = values.isEmpty := by
    have hhead := hrest.head_lt
    rw [hrest.tail_eq, add_mod_eq_ite hhead hrest.length_le]
    cases values with
    | nil =>
        rw [List.length_nil, Nat.add_zero, if_pos hhead]
        apply beq_self_eq_true
    | cons other values =>
        rw [List.length_cons] at hlength ⊢
        apply beq_eq_false_iff_ne.mpr
        split
        · omega
        · omega
  rw [pop, hoccupied]
  exact ⟨hvalue, ⟨hrest.head_lt, hrest.length_le, hrest.tail_eq, hrest.slot_eq⟩, hempty⟩

/-- Popping gives the head of the list and leaves its tail. -/
theorem pop (represents : buffer.Represents values) :
  buffer.pop.1 = values.head? ∧ buffer.pop.2.Represents values.tail
  := by
  cases values with
  | nil =>
      rw [represents.pop_nil]
      exact ⟨rfl, represents⟩
  | cons value values => apply represents.pop_cons

/-- Popping as many elements as there are, or more, gives the list. -/
theorem popUpTo_eq (represents : buffer.Represents values) {n : Nat}
    (h : values.length ≤ n) :
  (popUpTo n buffer).1 = values ∧ (popUpTo n buffer).2.Represents []
  := by
  induction n generalizing buffer values with
  | zero =>
      have hnil := List.eq_nil_of_length_eq_zero (Nat.le_zero.mp h)
      subst hnil
      exact ⟨rfl, represents⟩
  | succ n ih =>
      cases values with
      | nil =>
          rw [popUpTo, represents.pop_nil]
          exact ⟨rfl, represents⟩
      | cons value values =>
          obtain ⟨hvalue, hrest⟩ := represents.pop_cons
          obtain ⟨hvalues, hnil⟩ := ih hrest (Nat.le_of_succ_le_succ h)
          have hpop : buffer.pop = (some value, buffer.pop.2) := by
            rw [← hvalue]
          rw [popUpTo, hpop]
          constructor
          · dsimp only
            rw [hvalues]
          · apply hnil

/-- Popping all elements gives the list. -/
theorem popAll_eq (represents : buffer.Represents values) :
  buffer.popAll.1 = values ∧ buffer.popAll.2.Represents []
  := by
  apply represents.popUpTo_eq
  apply Nat.le_of_eq represents.count_eq.symm

end Represents

end RingBuffer

end FlightBus

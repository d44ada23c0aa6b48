/-!
# Ring buffers

A ring buffer is a queue of fixed capacity.  When it is full, a new element displaces the
oldest one.  The elements lie in a row of slots that is closed to a ring: from the slot at
`head` on, up to but excluding the slot at `tail`.  When `head` and `tail` are the same, the
buffer is empty or full, and a flag says which.
-/

namespace FlightBus

/-- A queue of fixed capacity in which a new element displaces the oldest. -/
structure RingBuffer (α : Type) where
  /-- The slots. -/
  slots : Array (Option α)
  /-- The index of the slot for the next element. -/
  tail : Nat
  /-- The index of the slot of the oldest element. -/
  head : Nat
  /-- Whether there are no elements. -/
  isEmpty : Bool
deriving Repr

namespace RingBuffer

variable {α : Type}

/-- What is said of a capacity of zero, which no ring buffer may have. -/
def zeroCapacityText : String := "ring buffer capacity must be positive"

/-- The empty buffer of a positive capacity. -/
def new (capacity : Nat) (_positive : 0 < capacity) : RingBuffer α :=
  ⟨Array.replicate capacity none, 0, 0, true⟩

/-- The empty buffer of a capacity, if the capacity is positive. -/
def new? (capacity : Nat) : Option (RingBuffer α) :=
  if h : 0 < capacity then some (new capacity h) else none

/-- The largest number of elements. -/
def capacity (buffer : RingBuffer α) : Nat :=
  buffer.slots.size

/-- The number of elements. -/
def count (buffer : RingBuffer α) : Nat :=
  if buffer.isEmpty then
    0
  else
    (buffer.tail + buffer.capacity - buffer.head - 1) % buffer.capacity + 1

/-- Whether there are as many elements as the capacity allows. -/
def isFull (buffer : RingBuffer α) : Bool :=
  !buffer.isEmpty && buffer.tail == buffer.head

/-- The index of the slot behind the one at an index. -/
def next (buffer : RingBuffer α) (index : Nat) : Nat :=
  (index + 1) % buffer.capacity

/-- The element in the slot at an index, if there is one. -/
def slot (buffer : RingBuffer α) (index : Nat) : Option α :=
  (buffer.slots[index]?).join

/-- The elements, the oldest first. -/
def toList (buffer : RingBuffer α) : List α :=
  (List.range buffer.count).filterMap
    (fun i => buffer.slot ((buffer.head + i) % buffer.capacity))

/-- The buffer without its oldest element, whatever it holds. -/
def dropOldest (buffer : RingBuffer α) : RingBuffer α :=
  { buffer with
    slots := buffer.slots.setIfInBounds buffer.head none
    head := buffer.next buffer.head }

/-- Appends an element.  If the buffer was full, its oldest element is displaced and
given back. -/
def push (buffer : RingBuffer α) (value : α) : Option α × RingBuffer α :=
  let displaced := if buffer.isFull then buffer.slot buffer.head else none
  let buffer := if buffer.isFull then buffer.dropOldest else buffer
  (displaced,
    { buffer with
      slots := buffer.slots.setIfInBounds buffer.tail (some value)
      tail := buffer.next buffer.tail
      isEmpty := false })

/-- Takes the oldest element. -/
def pop (buffer : RingBuffer α) : Option α × RingBuffer α :=
  if buffer.isEmpty then
    (none, buffer)
  else
    let rest := buffer.dropOldest
    (buffer.slot buffer.head, { rest with isEmpty := rest.head == rest.tail })

/-- Takes up to a number of elements, the oldest first, and stops when there is none. -/
def popUpTo : Nat → RingBuffer α → List α × RingBuffer α
  | 0, buffer => ([], buffer)
  | n + 1, buffer =>
    match buffer.pop with
    | (none, buffer) => ([], buffer)
    | (some value, buffer) =>
        let (values, buffer) := popUpTo n buffer
        (value :: values, buffer)

/-- Takes all elements, the oldest first. -/
def popAll (buffer : RingBuffer α) : List α × RingBuffer α :=
  popUpTo buffer.count buffer

/-- The buffer without its elements. -/
def clear (buffer : RingBuffer α) : RingBuffer α :=
  buffer.popAll.2

end RingBuffer

end FlightBus

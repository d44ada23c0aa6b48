/-!
# Time

A point in time is a number of nanoseconds from an epoch, an integer of 64 bits.  What
leaves the range, when a point in time is given in a coarser unit or moved, is clamped to
the end of the range.  Read in a coarser unit, a point in time is truncated toward zero.
-/

namespace FlightBus

/-- The 64-bit integer nearest to `x`: `x` itself if it is in range, and otherwise the
end of the range on its side. -/
def clampInt64 (x : Int) : Int64 :=
  if x < Int64.minValue.toInt then Int64.minValue
  else if Int64.maxValue.toInt < x then Int64.maxValue
  else Int64.ofInt x

/-- The units in which a point in time is given and read. -/
inductive TimeUnit
  | nanoseconds
  | microseconds
  | milliseconds
  | seconds
deriving DecidableEq, Repr

/-- The number of nanoseconds in a unit. -/
def TimeUnit.span : TimeUnit → Int64
  | .nanoseconds => 1
  | .microseconds => 1000
  | .milliseconds => 1000000
  | .seconds => 1000000000

/-- A point in time, counted in nanoseconds. -/
structure Timestamp where
  /-- The nanoseconds from the epoch. -/
  ns : Int64
deriving DecidableEq, Repr

namespace Timestamp

/-- The epoch. -/
def zero : Timestamp := ⟨0⟩

/-- The point in time `x` units after the epoch, clamped to the range. -/
def ofUnits (unit : TimeUnit) (x : Int64) : Timestamp :=
  ⟨clampInt64 (x.toInt * unit.span.toInt)⟩

/-- The whole units between the epoch and a point in time, truncated toward zero. -/
def inUnits (unit : TimeUnit) (t : Timestamp) : Int64 :=
  t.ns / unit.span

/-- A point in time as a fractional number of units: the sum of the whole units and of the
fraction that is left, each rounded by itself. -/
def inFractionalUnits (unit : TimeUnit) (t : Timestamp) : Float :=
  (t.ns / unit.span).toFloat + (t.ns % unit.span).toFloat / unit.span.toFloat

/-- The point in time `ns` nanoseconds later, if it is in range. -/
def add? (t : Timestamp) (ns : Int64) : Option Timestamp :=
  let sum := t.ns.toInt + ns.toInt
  if Int64.minValue.toInt ≤ sum ∧ sum ≤ Int64.maxValue.toInt then
    some ⟨Int64.ofInt sum⟩
  else
    none

/-- The point in time `ns` nanoseconds later, clamped to the range. -/
def add (t : Timestamp) (ns : Int64) : Timestamp :=
  ⟨clampInt64 (t.ns.toInt + ns.toInt)⟩

end Timestamp

/-- A clock that is driven by hand. -/
structure ManualClock where
  /-- The point in time that the clock shows. -/
  now : Timestamp := Timestamp.zero
deriving DecidableEq, Repr

namespace ManualClock

/-- The clock set to a point in time. -/
def set (_ : ManualClock) (t : Timestamp) : ManualClock :=
  ⟨t⟩

/-- The clock moved by a number of nanoseconds, clamped to the range. -/
def advance (clock : ManualClock) (ns : Int64) : ManualClock :=
  ⟨clock.now.add ns⟩

end ManualClock

end FlightBus

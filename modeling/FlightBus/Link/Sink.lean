import FlightBus.Wire.Field

/-!
# Sinks of bytes

A sink takes a write as a whole or refuses it and takes nothing of it, so that what it holds
never ends within a frame.  A `GrowableSink` takes everything.  A `FixedSink` fills a store
of fixed size, and a `BoundedSink` grows up to a capacity.  These stay as they were when they
refuse a write; other sinks may not, and may take the same write later.
-/

namespace FlightBus

/-- The types of sinks. -/
class ByteSink (σ : Type) where
  /-- The sink after a write, or `none` if it refuses the write. -/
  write? : σ → List UInt8 → Option σ
  /-- The sink after a write that it refuses. -/
  refuse : σ → List UInt8 → σ := fun sink _ => sink

/-! ### Growable sinks -/

/-- A sink that takes everything. -/
structure GrowableSink where
  /-- The bytes taken. -/
  contents : List UInt8 := []
deriving DecidableEq, Repr

instance : ByteSink GrowableSink where
  write? sink bytes := some ⟨sink.contents ++ bytes⟩

/-! ### Fixed sinks -/

/-- A sink that fills a store of fixed size from its start. -/
structure FixedSink where
  /-- The contents of the whole store. -/
  store : List UInt8
  /-- The number of bytes taken. -/
  length : Nat := 0
deriving DecidableEq, Repr

namespace FixedSink

/-- The empty sink with a store of zeros. -/
def ofCapacity (capacity : Nat) : FixedSink :=
  ⟨List.replicate capacity 0, 0⟩

/-- The number of bytes that the sink can hold. -/
def capacity (sink : FixedSink) : Nat :=
  sink.store.length

/-- The bytes taken. -/
def contents (sink : FixedSink) : List UInt8 :=
  sink.store.take sink.length

/-- Whether no bytes were taken. -/
def isEmpty (sink : FixedSink) : Bool :=
  sink.length = 0

/-- The sink without contents. -/
def clear (sink : FixedSink) : FixedSink :=
  { sink with length := 0 }

/-- The sink after a write, if the store has room behind the bytes taken. -/
def write? (sink : FixedSink) (bytes : List UInt8) : Option FixedSink :=
  let stop := sink.length + bytes.length
  if sink.store.length < stop then
    none
  else
    some ⟨overwrite sink.store sink.length bytes, stop⟩

end FixedSink

instance : ByteSink FixedSink where
  write? := FixedSink.write?

/-! ### Bounded sinks -/

/-- A sink that grows up to a capacity. -/
structure BoundedSink where
  /-- The number of bytes that the sink can hold. -/
  capacity : Nat
  /-- The bytes taken. -/
  contents : List UInt8 := []
deriving DecidableEq, Repr

namespace BoundedSink

/-- The sink without contents. -/
def clear (sink : BoundedSink) : BoundedSink :=
  { sink with contents := [] }

/-- The sink after a write, if the capacity allows it. -/
def write? (sink : BoundedSink) (bytes : List UInt8) : Option BoundedSink :=
  if bytes.length ≤ sink.capacity - sink.contents.length then
    some { sink with contents := sink.contents ++ bytes }
  else
    none

end BoundedSink

instance : ByteSink BoundedSink where
  write? := BoundedSink.write?

/-! ### Sinks of any type -/

/-- A sink of any of the types. -/
inductive Sink
  | growable (sink : GrowableSink)
  | fixed (sink : FixedSink)
  | bounded (sink : BoundedSink)
deriving DecidableEq, Repr

namespace Sink

/-- The bytes taken. -/
def contents : Sink → List UInt8
  | growable sink => sink.contents
  | fixed sink => sink.contents
  | bounded sink => sink.contents

/-- The sink without contents. -/
def clear : Sink → Sink
  | growable _ => .growable {}
  | fixed sink => .fixed sink.clear
  | bounded sink => .bounded sink.clear

/-- The sink after a write, or `none` if it refuses the write. -/
def write? : Sink → List UInt8 → Option Sink
  | growable sink, bytes => (ByteSink.write? sink bytes).map .growable
  | fixed sink, bytes => (ByteSink.write? sink bytes).map .fixed
  | bounded sink, bytes => (ByteSink.write? sink bytes).map .bounded

end Sink

instance : ByteSink Sink where
  write? := Sink.write?

end FlightBus

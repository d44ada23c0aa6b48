import FlightBus.Bus.Demultiplexer
import FlightBus.Bus.Multiplexer
import FlightBus.Control.Scheduler

/-!
# Control loops

A control loop turns input bytes into output bytes.  In each cycle a demultiplexer consumes
the input, the nodes of a scheduler are stepped once, and a multiplexer writes the output.
-/

namespace FlightBus

/-- What the nodes of a control loop act on. -/
structure World (D : Dialect) (ε : Type) where
  /-- The channels and their receivers. -/
  hub : Hub D.Message := {}
  /-- Everything else. -/
  surroundings : ε

/-- The state of a control loop with nodes of type `ν`. -/
structure ControlLoop (D : Dialect) (ν : Type) where
  /-- The demultiplexer. -/
  demux : Demultiplexer D
  /-- The scheduler. -/
  scheduler : Scheduler ν := {}
  /-- The multiplexer. -/
  mux : Multiplexer := {}

/-- The result of a cycle. -/
structure Cycle (D : Dialect) (ν ε : Type) where
  /-- The control loop after the cycle. -/
  loop : ControlLoop D ν
  /-- The world after the cycle. -/
  world : World D ε
  /-- The output. -/
  output : List UInt8
  /-- The log records. -/
  records : List Record

namespace ControlLoop

variable {D : Dialect} {ν ε : Type}

/-- Consumes a source and delivers the messages. -/
def receive (loop : ControlLoop D ν) (world : World D ε) (source : ChunkedSource) :
    List Record × ControlLoop D ν × World D ε :=
  let (actions, demux, _) := loop.demux.consume source
  (actions.filterMap Action.record?, { loop with demux },
    { world with hub := world.hub.deliver actions })

/-- Writes the messages of the multiplexer's receivers into a sink. -/
def transmit {σ : Type} [ByteSink σ] (loop : ControlLoop D ν) (world : World D ε)
    (sink : σ) : List Record × σ × ControlLoop D ν × World D ε :=
  let (hub, state) := loop.mux.flush world.hub sink
  (state.records, state.sink, { loop with mux := state.mux }, { world with hub })

/-- Runs a cycle on input bytes. -/
def cycle [Node ν (World D ε)] (loop : ControlLoop D ν) (world : World D ε)
    (input : List UInt8) : Cycle D ν ε :=
  let (received, loop, world) := loop.receive world ⟨input, none⟩
  let (pass, scheduler) := loop.scheduler.run world
  let loop := { loop with scheduler }
  let (transmitted, sink, loop, world) := loop.transmit pass.world ({} : GrowableSink)
  let summary : Record :=
    ⟨.trace, s!"step: {input.length} bytes in, {sink.contents.length} bytes out"⟩
  ⟨loop, world, sink.contents, received ++ pass.records ++ transmitted ++ [summary]⟩

end ControlLoop

end FlightBus

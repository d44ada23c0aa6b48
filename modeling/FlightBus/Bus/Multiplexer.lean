import FlightBus.Bus.Hub
import FlightBus.Frame.Packet
import FlightBus.Link.Sink
import FlightBus.Log

/-!
# Multiplexers

A multiplexer writes the messages of its receivers into a sink, each as a frame: receiver
by receiver in the order in which they were added, and the oldest message of a receiver
first.  The frames that sinks take are numbered in sequence, modulo 256.  A message is gone
also when the sink refuses its frame.
-/

namespace FlightBus

/-- A receiver, and the origin that is given for its messages. -/
structure Outlet where
  /-- The receiver. -/
  receiver : ReceiverId
  /-- The system that the messages come from. -/
  system : SystemId
  /-- The component that the messages come from. -/
  component : ComponentId
deriving DecidableEq, Repr

/-- The state of a multiplexer. -/
structure Multiplexer where
  /-- The receivers, in the order in which they were added. -/
  outlets : List Outlet := []
  /-- The packet into which frames are written. -/
  packet : Packet := Packet.blank
  /-- The sequence number of the next frame. -/
  sequence : UInt8 := 0
  /-- The number of frames that sinks took. -/
  frames : UInt32 := 0
  /-- The number of frames that sinks refused. -/
  refused : UInt32 := 0
deriving DecidableEq, Repr

/-- A multiplexer at work on a sink. -/
structure Emission (σ : Type) where
  /-- The multiplexer. -/
  mux : Multiplexer
  /-- The sink. -/
  sink : σ
  /-- The log records so far. -/
  records : List Record := []

namespace Multiplexer

/-- Adds a receiver behind the others. -/
def add (mux : Multiplexer) (outlet : Outlet) : Multiplexer :=
  { mux with outlets := mux.outlets ++ [outlet] }

/-- The log record of a frame that a sink refused. -/
def refusal (id : MessageId) (outlet : Outlet) : Record :=
  ⟨.warn, s!"sink refused message {id} from {outlet.system}/{outlet.component}"⟩

variable {D : Dialect} {σ : Type} [ByteSink σ]

/-- Writes a message into the sink. -/
def emit (outlet : Outlet) (state : Emission σ) (message : D.Message) : Emission σ :=
  let format := D.format message.1
  let mux := state.mux
  let encoded :=
    format.encode message.2 outlet.system outlet.component mux.sequence mux.packet
  let mux := { mux with packet := encoded.packet }
  match ByteSink.write? state.sink encoded.bytes with
  | some sink =>
      { state with
        mux := { mux with sequence := mux.sequence + 1, frames := mux.frames + 1 }
        sink }
  | none =>
      { state with
        mux := { mux with refused := mux.refused + 1 }
        sink := ByteSink.refuse state.sink encoded.bytes
        records := state.records ++ [refusal format.id outlet] }

/-- Writes the messages of a receiver into the sink. -/
def flushOutlet (hub : Hub D.Message) (state : Emission σ) (outlet : Outlet) :
    Hub D.Message × Emission σ :=
  let (messages, hub) := hub.takeAll outlet.receiver
  (hub, messages.foldl (emit outlet) state)

/-- Writes the messages of all receivers into a sink. -/
def flush (mux : Multiplexer) (hub : Hub D.Message) (sink : σ) :
    Hub D.Message × Emission σ :=
  mux.outlets.foldl (fun (hub, state) outlet => flushOutlet hub state outlet)
    (hub, { mux, sink })

end Multiplexer

/-- A multiplexer with a sink of its own. -/
structure Transmitter (σ : Type) where
  /-- The multiplexer. -/
  mux : Multiplexer := {}
  /-- The sink. -/
  sink : σ

namespace Transmitter

variable {D : Dialect} {σ : Type} [ByteSink σ]

/-- Adds a receiver behind the others. -/
def add (transmitter : Transmitter σ) (outlet : Outlet) : Transmitter σ :=
  { transmitter with mux := transmitter.mux.add outlet }

/-- Writes the messages of all receivers into the sink. -/
def flush (transmitter : Transmitter σ) (hub : Hub D.Message) :
    Hub D.Message × Transmitter σ × List Record :=
  let (hub, state) := transmitter.mux.flush hub transmitter.sink
  (hub, ⟨state.mux, state.sink⟩, state.records)

end Transmitter

end FlightBus

import FlightBus.Bus.Hub
import FlightBus.Fault
import FlightBus.Frame.Content
import FlightBus.Frame.Deframer
import FlightBus.Frame.Packet
import FlightBus.Link.Source

/-!
# Demultiplexers

A demultiplexer finds the frames in a byte stream and sends their messages on the channels
that are bound to their routing keys.  The message types that are known to its deframer
are those of its bindings.

Consuming bytes yields actions, which are records for the log and deliveries of messages,
in the order of the stream.  `Hub.deliver` carries the deliveries out.
-/

namespace FlightBus

/-! ### Actions -/

/-- Something that a demultiplexer wants done. -/
inductive Action (D : Dialect)
  /-- Something is to be reported. -/
  | log (record : Record)
  /-- A message is to be sent on a channel. -/
  | deliver (channel : ChannelId) (message : D.Message)

namespace Action

variable {D : Dialect}

/-- The record of an action, if it is one to report. -/
def record? : Action D → Option Record
  | log record => some record
  | deliver .. => none

/-- The channel and the message of an action, if it is a delivery. -/
def delivery? : Action D → Option (ChannelId × D.Message)
  | log _ => none
  | deliver channel message => some (channel, message)

end Action

/-- Carries out the deliveries among actions. -/
def Hub.deliver {D : Dialect} (hub : Hub D.Message) (actions : List (Action D)) :
    Hub D.Message :=
  (actions.filterMap Action.delivery?).foldl
    (fun hub (channel, message) => hub.send channel message) hub

/-! ### The state of a demultiplexer -/

/-- A binding: the message type of a routing key, and the channel for its messages. -/
structure Binding (D : Dialect) where
  /-- The message type. -/
  kind : D.Kind
  /-- The channel. -/
  channel : ChannelId

/-- The numbers of frames, by what became of them. -/
structure RoutingCounts where
  /-- The frames whose message was sent. -/
  dispatched : UInt32 := 0
  /-- The frames whose routing key is not bound. -/
  unbound : UInt32 := 0
  /-- The frames that do not hold a message of the bound type. -/
  undecodable : UInt32 := 0
deriving DecidableEq, Repr

/-- The state of a demultiplexer. -/
structure Demultiplexer (D : Dialect) where
  /-- The number of the input, which is mentioned in log records. -/
  input : UInt8
  /-- The deframer of the byte stream. -/
  deframer : Deframer := {}
  /-- The descriptors of the bound message types. -/
  known : DescriptorTable := {}
  /-- The bindings by routing key, the latest first. -/
  bindings : List (RoutingKey × Binding D) := []
  /-- The numbers of frames so far. -/
  counts : RoutingCounts := {}

namespace Demultiplexer

variable {D : Dialect}

/-! ### Bindings -/

/-- The binding of a routing key, if there is one. -/
def binding? (demux : Demultiplexer D) (key : RoutingKey) : Option (Binding D) :=
  demux.bindings.lookup key

/-- The number of bindings. -/
def bindingCount (demux : Demultiplexer D) : Nat :=
  demux.bindings.length

/-- Whether the message type of a descriptor is known with another descriptor. -/
def conflicts (demux : Demultiplexer D) (descriptor : Descriptor) : Bool :=
  match demux.known.find? descriptor.id with
  | some known => known ≠ descriptor
  | none => false

/-- The reason why a routing key cannot be bound to a message type, if there is one: the
message type is known with another descriptor, or the key is bound already. -/
def bindFault? (demux : Demultiplexer D) (key : RoutingKey) (descriptor : Descriptor) :
    Option (Fault .key) :=
  if demux.conflicts descriptor then
    some ⟨.invalidValue, key⟩
  else if (demux.binding? key).isSome then
    some ⟨.duplicateBinding, key⟩
  else
    none

/-- The log record of a routing key that cannot be bound. -/
def bindRecord : Fault .key → Record
  | ⟨.invalidValue, key⟩ => ⟨.warn, s!"conflicting descriptor for message {key.message}"⟩
  | ⟨_, key⟩ => ⟨.warn, s!"duplicate binding for {key}"⟩

/-- Binds the messages of a type from a component of a system to a channel. -/
def bind (demux : Demultiplexer D) (kind : D.Kind) (system : SystemId)
    (component : ComponentId) (channel : ChannelId) :
    Except (Fault .key) (Demultiplexer D) :=
  let format := D.format kind
  let key : RoutingKey := ⟨format.id, system, component⟩
  match demux.bindFault? key format.descriptor with
  | some fault => .error fault
  | none =>
      .ok { demux with
        known := demux.known.insert format.descriptor
        bindings := (key, ⟨kind, channel⟩) :: demux.bindings }

/-! ### Frames -/

/-- What becomes of a frame. -/
inductive Outcome (D : Dialect)
  /-- The routing key is not bound. -/
  | unbound
  /-- The frame does not hold a message of the bound type. -/
  | undecodable (reason : DecodeFailure)
  /-- The message is sent on the bound channel. -/
  | dispatched (channel : ChannelId) (message : D.Message)

/-- Decides what becomes of a frame. -/
def outcome (demux : Demultiplexer D) (frame : Frame) : Outcome D :=
  match demux.binding? frame.key with
  | none => .unbound
  | some binding =>
    match (D.format binding.kind).decode frame with
    | .error reason => .undecodable reason
    | .ok value => .dispatched binding.channel ⟨binding.kind, value⟩

/-- Counts what became of a frame. -/
def countOutcome (counts : RoutingCounts) : Outcome D → RoutingCounts
  | .unbound => { counts with unbound := counts.unbound + 1 }
  | .undecodable _ => { counts with undecodable := counts.undecodable + 1 }
  | .dispatched .. => { counts with dispatched := counts.dispatched + 1 }

/-- The action for what became of a frame. -/
def action (demux : Demultiplexer D) (frame : Frame) : Outcome D → Action D
  | .unbound => .log ⟨.trace, s!"input {demux.input}: no binding for {frame.key}"⟩
  | .undecodable reason =>
      .log ⟨.debug, s!"input {demux.input}: failed to decode {frame.key}: {reason.text}"⟩
  | .dispatched channel message => .deliver channel message

/-- Takes notice of a finding of the deframer. -/
def handle (demux : Demultiplexer D) : Finding → Action D × Demultiplexer D
  | .rejected cause => (.log cause.record, demux)
  | .frame frame =>
      let outcome := demux.outcome frame
      (demux.action frame outcome,
        { demux with counts := countOutcome demux.counts outcome })

/-- Takes notice of findings of the deframer, in order. -/
def handleAll (demux : Demultiplexer D) : List Finding → List (Action D) × Demultiplexer D
  | [] => ([], demux)
  | finding :: findings =>
      let (action, demux) := demux.handle finding
      let (actions, demux) := demux.handleAll findings
      (action :: actions, demux)

/-! ### Bytes -/

/-- Consumes bytes. -/
def consumeBytes (demux : Demultiplexer D) (bytes : List UInt8) :
    List (Action D) × Demultiplexer D :=
  let (findings, deframer) := demux.deframer.pushAll demux.known.find? bytes
  { demux with deframer }.handleAll findings

/-- Consumes the reads of a source, in order. -/
def consumeReads (demux : Demultiplexer D) :
    List (List UInt8) → List (Action D) × Demultiplexer D
  | [] => ([], demux)
  | bytes :: reads =>
      let (first, demux) := demux.consumeBytes bytes
      let (others, demux) := demux.consumeReads reads
      (first ++ others, demux)

/-- Consumes what a source gives until it is dry, and gives the actions, the demultiplexer
and the source after that.  A read takes no more than a packet. -/
def consume (demux : Demultiplexer D) (source : ChunkedSource) :
    List (Action D) × Demultiplexer D × ChunkedSource :=
  let (reads, source) := source.readAll Packet.size
  let (actions, demux) := demux.consumeReads reads
  (actions, demux, source)

end Demultiplexer

end FlightBus

import FlightBus.Control.ControlLoop
import FlightBus.Control.Script
import FlightBus.Message.Diagnostic
import FlightBus.Named

/-!
# Simulations

A simulation is a control loop with a clock that is moved by hand and with topics, which
are channels under names.  It is set up and driven command by command: topics are created
and closed, messages are sent and taken, nodes are added, and passes or whole cycles are run.

Nodes are traced: a node that is stepped first puts its number and the time down.
-/

namespace FlightBus

/-- What the nodes of a simulation share besides the channels. -/
structure Instruments where
  /-- The clock. -/
  clock : ManualClock := {}
  /-- The steps of nodes since the trace was cleared, each with the number of the node and
  the time. -/
  trace : List (UInt8 × Timestamp) := []
deriving DecidableEq, Repr

namespace Instruments

/-- Puts down that the node of the given number is stepped. -/
def note (instruments : Instruments) (id : UInt8) : Instruments :=
  { instruments with trace := instruments.trace ++ [(id, instruments.clock.now)] }

end Instruments

/-! ### Nodes -/

/-- What a node of a simulation does when it is stepped. -/
inductive Behaviour
  /-- Follows a script. -/
  | script (results : Script)
  /-- Moves the clock by a number of nanoseconds. -/
  | advance (ns : Int64)
  /-- Sends a heartbeat. -/
  | heartbeat (target : ChannelId)
  /-- Takes a sample and sends the command to the servos for it.  This fails if there is no
  sample. -/
  | servo (source : ReceiverId) (target : ChannelId)
  /-- Sends on all messages that it has received. -/
  | forward (source : ReceiverId) (target : ChannelId)

/-- A node of a simulation. -/
structure SimulationNode where
  /-- The name. -/
  name : String
  /-- The number. -/
  id : UInt8
  /-- What the node does. -/
  behaviour : Behaviour

/-- The heartbeat of an active system, marked with the time in milliseconds. -/
def heartbeatAt (now : Timestamp) : Heartbeat where
  customMode := (now.inUnits .milliseconds).toUInt64.toUInt32
  systemStatus := .active
  mavlinkVersion := Heartbeat.currentVersion

/-- The sample in a message, if it is one. -/
def benchSample? : bench.Message → Option ImuSample
  | ⟨.inl .imu, sample⟩ => some sample
  | _ => none

namespace Behaviour

/-- Does what a node does when it is stepped. -/
def run (behaviour : Behaviour) (world : World bench Instruments) :
    Except AnyFault Unit × Behaviour × World bench Instruments :=
  match behaviour with
  | script results =>
      (results.outcome, .script results.next, world)
  | advance ns =>
      let instruments := world.surroundings
      let instruments := { instruments with clock := instruments.clock.advance ns }
      (.ok (), behaviour, { world with surroundings := instruments })
  | heartbeat target =>
      let message : bench.Message := ⟨.inl .heartbeat, heartbeatAt world.surroundings.clock.now⟩
      (.ok (), behaviour, { world with hub := world.hub.send target message })
  | servo source target =>
      let (message, hub) := world.hub.take source
      match message.bind benchSample? with
      | some sample =>
          let command : bench.Message := ⟨.inl .servo, sample.toServoCommand⟩
          (.ok (), behaviour, { world with hub := hub.send target command })
      | none => (.error (AnyFault.ofCode .notReady), behaviour, { world with hub })
  | forward source target =>
      let (messages, hub) := world.hub.takeAll source
      (.ok (), behaviour,
        { world with hub := messages.foldl (fun hub message => hub.send target message) hub })

end Behaviour

instance : Node SimulationNode (World bench Instruments) where
  name node := node.name
  id node := node.id
  step node world :=
    let world := { world with surroundings := world.surroundings.note node.id }
    let (outcome, behaviour, world) := node.behaviour.run world
    ⟨outcome, { node with behaviour }, world⟩

/-! ### The state of a simulation -/

/-- A channel under a name. -/
structure Topic where
  /-- The type of the messages. -/
  kind : bench.Kind
  /-- The channel. -/
  channel : ChannelId
  /-- The receivers that are held under names. -/
  receivers : Named ReceiverId := []

/-- The state of a simulation. -/
structure Simulation where
  /-- The control loop. -/
  loop : ControlLoop bench SimulationNode
  /-- What the nodes act on. -/
  world : World bench Instruments := { surroundings := {} }
  /-- The topics. -/
  topics : Named Topic := []

/-- The reasons why a command is not carried out, and leaves the simulation as it was. -/
inductive CommandError
  /-- A receiver cannot have a capacity of zero. -/
  | zeroCapacity
  /-- A source cannot have a limit of zero. -/
  | zeroLimit
  /-- There is no topic or no receiver of this name. -/
  | unknownName
deriving DecidableEq, Repr

/-- The behaviour that is asked for a new node.  Channels are given by their topics, and
receivers, which the node gets for itself, by topic and capacity. -/
inductive BehaviourPlan
  /-- Follows a script of outcomes. -/
  | script (results : List (Option AnyFault))
  /-- Moves the clock by a number of nanoseconds. -/
  | advance (ns : Int64)
  /-- Sends heartbeats. -/
  | heartbeat (target : String)
  /-- Sends commands to the servos for samples. -/
  | servo (source target : String) (capacity : Nat)
  /-- Sends on messages. -/
  | forward (source target : String) (capacity : Nat)

namespace Simulation

/-- The simulation without topics and nodes whose input has the given number. -/
def ofInput (input : UInt8) : Simulation :=
  { loop := { demux := { input } } }

/-- The channels and their receivers. -/
def hub (simulation : Simulation) : Hub bench.Message :=
  simulation.world.hub

/-- The simulation with its channels and receivers replaced. -/
def setHub (simulation : Simulation) (hub : Hub bench.Message) : Simulation :=
  { simulation with world := { simulation.world with hub } }

/-- The clock and the trace. -/
def instruments (simulation : Simulation) : Instruments :=
  simulation.world.surroundings

/-- The simulation with its clock and its trace replaced. -/
def setInstruments (simulation : Simulation) (instruments : Instruments) : Simulation :=
  { simulation with world := { simulation.world with surroundings := instruments } }

/-- The simulation with the clock changed. -/
def modifyClock (simulation : Simulation) (f : ManualClock → ManualClock) : Simulation :=
  let instruments := simulation.instruments
  simulation.setInstruments { instruments with clock := f instruments.clock }

/-- The simulation with an empty trace. -/
def clearTrace (simulation : Simulation) : Simulation :=
  simulation.setInstruments { simulation.instruments with trace := [] }

/-- The topic of a name. -/
def topic (simulation : Simulation) (name : String) : Except CommandError Topic :=
  match simulation.topics.find? name with
  | some topic => .ok topic
  | none => .error .unknownName

/-- The receiver that is held under a name. -/
def receiverOf (topic : Topic) (name : String) : Except CommandError ReceiverId :=
  match topic.receivers.find? name with
  | some r => .ok r
  | none => .error .unknownName

/-- The simulation with a topic stored under a name. -/
def setTopic (simulation : Simulation) (name : String) (topic : Topic) : Simulation :=
  { simulation with topics := simulation.topics.insert name topic }

/-- Creates a receiver of a topic. -/
def subscribe (simulation : Simulation) (topic : Topic) (capacity : Nat) :
    Except CommandError (ReceiverId × Simulation) :=
  match simulation.hub.subscribe? topic.channel capacity with
  | some (r, hub) => .ok (r, simulation.setHub hub)
  | none => .error .zeroCapacity

/-! ### Topics -/

/-- Drops the channel of a topic and the receivers that are held under names. -/
def close (simulation : Simulation) (name : String) : Except CommandError Simulation := do
  let topic ← simulation.topic name
  let hub := (topic.receivers.map Prod.snd).foldl Hub.unsubscribe simulation.hub
  return { simulation.setHub (hub.release topic.channel) with
    topics := simulation.topics.erase name }

/-- Creates a topic, in place of the one of the same name if there is one. -/
def create (simulation : Simulation) (name : String) (kind : bench.Kind) : Simulation :=
  let (channel, hub) := simulation.hub.openChannel
  let simulation := simulation.setHub hub
  ((simulation.close name).toOption.getD simulation).setTopic name { kind, channel }

/-- Creates a receiver, in place of the one of the same name if there is one, and counts the
receivers of the topic. -/
def hold (simulation : Simulation) (topicName name : String) (capacity : Nat) :
    Except CommandError (Nat × Simulation) := do
  let topic ← simulation.topic topicName
  let (r, simulation) ← simulation.subscribe topic capacity
  let hub := (topic.receivers.find? name).elim simulation.hub simulation.hub.unsubscribe
  let topic := { topic with receivers := topic.receivers.insert name r }
  return (hub.receiverCount topic.channel, (simulation.setHub hub).setTopic topicName topic)

/-- Drops a receiver. -/
def drop (simulation : Simulation) (topicName name : String) :
    Except CommandError Simulation := do
  let topic ← simulation.topic topicName
  let r ← receiverOf topic name
  let topic := { topic with receivers := topic.receivers.erase name }
  return (simulation.setHub (simulation.hub.unsubscribe r)).setTopic topicName topic

/-- Sends a message. -/
def send (simulation : Simulation) (topicName : String) (message : bench.Message) :
    Except CommandError Simulation := do
  let topic ← simulation.topic topicName
  return simulation.setHub (simulation.hub.send topic.channel message)

/-- Takes all messages of a receiver, the oldest first. -/
def takeAll (simulation : Simulation) (topicName name : String) :
    Except CommandError (List bench.Message × Simulation) := do
  let topic ← simulation.topic topicName
  let r ← receiverOf topic name
  let (messages, hub) := simulation.hub.takeAll r
  return (messages, simulation.setHub hub)

/-! ### Input and output -/

/-- Binds the messages from a component of a system to a topic.  If that is not possible,
the fault is given. -/
def bind (simulation : Simulation) (topicName : String) (system : SystemId)
    (component : ComponentId) : Except CommandError (Option (Fault .key) × Simulation) := do
  let topic ← simulation.topic topicName
  match simulation.loop.demux.bind topic.kind system component topic.channel with
  | .error fault => return (some fault, simulation)
  | .ok demux =>
      let simulation := simulation.setHub (simulation.hub.retain topic.channel)
      return (none, { simulation with loop := { simulation.loop with demux } })

/-- Adds a new receiver of a topic to the multiplexer. -/
def publish (simulation : Simulation) (topicName : String) (capacity : Nat)
    (system : SystemId) (component : ComponentId) : Except CommandError Simulation := do
  let topic ← simulation.topic topicName
  let (r, simulation) ← simulation.subscribe topic capacity
  let mux := simulation.loop.mux.add ⟨r, system, component⟩
  return { simulation with loop := { simulation.loop with mux } }

/-- The source of a byte string, with or without a limit. -/
def sourceOf (bytes : List UInt8) : Option Nat → Except CommandError ChunkedSource
  | none => .ok ⟨bytes, none⟩
  | some limit =>
    match ChunkedSource.withLimit? bytes limit with
    | some source => .ok source
    | none => .error .zeroLimit

/-- Consumes a source of bytes, without running the nodes. -/
def receive (simulation : Simulation) (bytes : List UInt8) (limit : Option Nat) :
    Except CommandError (List Record × Simulation) := do
  let source ← sourceOf bytes limit
  let (records, loop, world) := simulation.loop.receive simulation.world source
  return (records, { simulation with loop, world })

/-- Writes the messages of the multiplexer's receivers into a sink, without running the
nodes. -/
def transmit (simulation : Simulation) (sink : Sink) : List Record × Sink × Simulation :=
  let (records, sink, loop, world) := simulation.loop.transmit simulation.world sink
  (records, sink, { simulation with loop, world })

/-! ### Nodes -/

/-- Gives a new node its behaviour: a receiver of its own if it has a source, and a handle
to the channel if it has a target. -/
def equip (simulation : Simulation) :
    BehaviourPlan → Except CommandError (Behaviour × Simulation)
  | .script results => .ok (.script { results }, simulation)
  | .advance ns => .ok (.advance ns, simulation)
  | .heartbeat target => do
      let target ← simulation.topic target
      return (.heartbeat target.channel,
        simulation.setHub (simulation.hub.retain target.channel))
  | .servo source target capacity => do
      let source ← simulation.topic source
      let target ← simulation.topic target
      let (r, simulation) ← simulation.subscribe source capacity
      return (.servo r target.channel,
        simulation.setHub (simulation.hub.retain target.channel))
  | .forward source target capacity => do
      let source ← simulation.topic source
      let target ← simulation.topic target
      let (r, simulation) ← simulation.subscribe source capacity
      return (.forward r target.channel,
        simulation.setHub (simulation.hub.retain target.channel))

/-- Adds a node to the scheduler. -/
def addNode (simulation : Simulation) (name : String) (id : UInt8) (plan : BehaviourPlan) :
    Except CommandError (Record × Simulation) := do
  let (behaviour, simulation) ← simulation.equip plan
  let (record, scheduler) := simulation.loop.scheduler.add ⟨name, id, behaviour⟩
  return (record, { simulation with loop := { simulation.loop with scheduler } })

/-- Clears the trace and steps every node once: the number of nodes that failed, the log
records, and the simulation after the pass. -/
def pass (simulation : Simulation) : Nat × List Record × Simulation :=
  let simulation := simulation.clearTrace
  let (pass, scheduler) := simulation.loop.scheduler.run simulation.world
  let loop := { simulation.loop with scheduler }
  (pass.failed, pass.records, { simulation with loop, world := pass.world })

/-- Clears the trace and runs a cycle of the control loop on input bytes: the output, the
log records, and the simulation after the cycle. -/
def cycle (simulation : Simulation) (input : List UInt8) :
    List UInt8 × List Record × Simulation :=
  let simulation := simulation.clearTrace
  let result := simulation.loop.cycle simulation.world input
  (result.output, result.records,
    { simulation with loop := result.loop, world := result.world })

end Simulation

end FlightBus

import FlightBus.Control.ControlLoop
import FlightBus.Message.Flight

/-!
# The autopilot

The autopilot is a control loop that answers samples of inertial measurement units with
commands to the servos, one per cycle.  Samples that arrive faster wait in a queue, from
which the oldest are displaced.
-/

namespace FlightBus

/-- The node of the autopilot. -/
structure ServoDriver where
  /-- The receiver of the samples. -/
  samples : ReceiverId
  /-- The channel for the commands. -/
  commands : ChannelId
deriving DecidableEq, Repr

namespace ServoDriver

/-- The sample in a message, if it is one. -/
def sample? : flight.Message → Option ImuSample
  | ⟨.imu, sample⟩ => some sample
  | _ => none

/-- Takes a sample, if there is one, and sends the command for it. -/
def run (node : ServoDriver) (hub : Hub flight.Message) : Hub flight.Message :=
  let (message, hub) := hub.take node.samples
  match message.bind sample? with
  | some sample => hub.send node.commands ⟨.servo, sample.toServoCommand⟩
  | none => hub

end ServoDriver

instance : Node ServoDriver (World flight Unit) where
  name _ := "imu_to_servo"
  id _ := 1
  step node world := ⟨.ok (), node, { world with hub := node.run world.hub }⟩

/-- The state of an autopilot. -/
structure Autopilot where
  /-- The control loop. -/
  loop : ControlLoop flight ServoDriver
  /-- The channels of the control loop. -/
  world : World flight Unit

namespace Autopilot

/-- The system that the autopilot and its host belong to. -/
def system : SystemId := ⟨0⟩

/-- The capacity of the receivers. -/
def queueDepth : Nat := 10

theorem queueDepth_pos :
  0 < queueDepth
  := by
  decide

/-- The autopilot before its first cycle, and the log records of putting it together.  The
samples of the rocket are bound to a channel from which the node takes them, and the
commands of the node are sent as those of the rocket. -/
def assemble : Except (Fault .key) (Autopilot × List Record) :=
  let (samples, hub) := ({} : Hub flight.Message).openChannel
  let (commands, hub) := hub.openChannel
  let loop : ControlLoop flight ServoDriver := { demux := { input := 0 } }
  match loop.demux.bind .imu system ComponentId.rocket samples with
  | .error fault => .error fault
  | .ok demux =>
      let hub := hub.retain samples
      let (outlet, hub) := hub.subscribe commands queueDepth queueDepth_pos
      let mux := loop.mux.add ⟨outlet, system, ComponentId.rocket⟩
      let (inlet, hub) := hub.subscribe samples queueDepth queueDepth_pos
      let hub := hub.retain commands
      let (record, scheduler) := loop.scheduler.add ⟨inlet, commands⟩
      let hub := (hub.release samples).release commands
      .ok (⟨⟨demux, scheduler, mux⟩, ⟨hub, ()⟩⟩, [record])

/-- Runs a cycle on input bytes: the output, the log records, and the autopilot after the
cycle. -/
def cycle (autopilot : Autopilot) (input : List UInt8) :
    List UInt8 × List Record × Autopilot :=
  let result := autopilot.loop.cycle autopilot.world input
  (result.output, result.records, ⟨result.loop, result.world⟩)

end Autopilot

end FlightBus

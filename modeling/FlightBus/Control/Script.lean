import FlightBus.Control.Scheduler
import FlightBus.Time

/-!
# Scripted nodes

A script lists the outcomes of the steps of a node, which are gone through round and round.
A timed node moves the clock at each step and has the outcomes of a script.
-/

namespace FlightBus

/-- Outcomes that are gone through round and round. -/
structure Script where
  /-- The outcomes of a round, of which `none` is success. -/
  results : List (Option AnyFault)
  /-- The number of steps so far. -/
  position : Nat := 0

namespace Script

/-- The outcome of the next step, which is success if the script lists no outcomes. -/
def outcome (script : Script) : Except AnyFault Unit :=
  match script.results[script.position % script.results.length]? with
  | some (some fault) => .error fault
  | _ => .ok ()

/-- The script after the next step. -/
def next (script : Script) : Script :=
  { script with position := script.position + 1 }

end Script

/-- A node that moves the clock. -/
structure TimedNode where
  /-- The name. -/
  name : String
  /-- The number. -/
  id : UInt8
  /-- The number of nanoseconds by which a step moves the clock. -/
  advance : Int64
  /-- The outcomes of the steps. -/
  script : Script

instance : Node TimedNode ManualClock where
  name node := node.name
  id node := node.id
  step node clock :=
    ⟨node.script.outcome, { node with script := node.script.next },
      clock.advance node.advance⟩

namespace TimedNode

/-- A number of steps, each with the time before it, its outcome and the time after it. -/
def run : Nat → TimedNode → ManualClock →
    List (Timestamp × Except AnyFault Unit × Timestamp)
  | 0, _, _ => []
  | n + 1, node, clock =>
      let result := Node.step node clock
      (clock.now, result.outcome, result.world.now) :: run n result.node result.world

end TimedNode

end FlightBus

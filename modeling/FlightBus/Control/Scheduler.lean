import FlightBus.Fault
import FlightBus.Log

/-!
# Schedulers

A scheduler runs nodes.  A node has a state of its own and acts on a world that it shares
with the other nodes.  In a pass every node is stepped once, in the order in which the nodes
were added, and each sees what those before it did to the world.  Failures are reported and
counted, and have no influence on the nodes that follow.
-/

namespace FlightBus

/-- The result of a step of a node. -/
structure NodeStep (ν σ : Type) where
  /-- Whether the node succeeded, and if not, for what fault. -/
  outcome : Except AnyFault Unit
  /-- The node after the step. -/
  node : ν
  /-- The world after the step. -/
  world : σ

/-- The types of nodes in worlds of type `σ`. -/
class Node (ν : Type) (σ : outParam Type) where
  /-- The name of a node. -/
  name : ν → String
  /-- The number of a node. -/
  id : ν → UInt8
  /-- A step of a node. -/
  step : ν → σ → NodeStep ν σ

/-- The state of a scheduler. -/
structure Scheduler (ν : Type) where
  /-- The nodes, in the order in which they were added. -/
  nodes : List ν := []
  /-- The number of failures in all passes, or the largest number of 32 bits if there were
  more. -/
  failures : UInt32 := 0

/-- The result of a pass over nodes. -/
structure Pass (ν σ : Type) where
  /-- The nodes after the pass. -/
  nodes : List ν
  /-- The world after the pass. -/
  world : σ
  /-- The number of nodes that failed. -/
  failed : Nat
  /-- The log records. -/
  records : List Record

/-- The sum of two numbers, or the largest number of 32 bits if the sum is larger. -/
def saturatingAdd (a b : UInt32) : UInt32 :=
  if UInt32.size ≤ a.toNat + b.toNat then UInt32.ofNat (UInt32.size - 1) else a + b

theorem toNat_saturatingAdd (a b : UInt32) :
  (saturatingAdd a b).toNat = min (UInt32.size - 1) (a.toNat + b.toNat)
  := by
  rw [saturatingAdd]
  split
  · have hlargest : (UInt32.ofNat (UInt32.size - 1)).toNat = UInt32.size - 1 := rfl
    omega
  · rename_i hsmall
    rw [UInt32.toNat_add, Nat.mod_eq_of_lt (Nat.lt_of_not_le hsmall)]
    omega

namespace Scheduler

variable {ν σ : Type} [Node ν σ]

/-- The log record of a node that was added. -/
def registration (node : ν) : Record :=
  ⟨.debug, s!"registered node {Node.name node} ({Node.id node})"⟩

/-- The log record of a node that failed. -/
def failureRecord (node : ν) (fault : AnyFault) : Record :=
  ⟨.warn, s!"node {Node.name node} ({Node.id node}) failed: {fault.code.name}"⟩

/-- Adds a node behind the others. -/
def add (scheduler : Scheduler ν) (node : ν) : Record × Scheduler ν :=
  (registration node, { scheduler with nodes := scheduler.nodes ++ [node] })

/-- The number of nodes. -/
def nodeCount (scheduler : Scheduler ν) : Nat :=
  scheduler.nodes.length

/-- Whether there are no nodes. -/
def isEmpty (scheduler : Scheduler ν) : Bool :=
  scheduler.nodes.isEmpty

/-- Steps nodes in order. -/
def runNodes (world : σ) : List ν → Pass ν σ
  | [] => ⟨[], world, 0, []⟩
  | node :: nodes =>
      let result := Node.step node world
      let pass := runNodes result.world nodes
      match result.outcome with
      | .ok _ => ⟨result.node :: pass.nodes, pass.world, pass.failed, pass.records⟩
      | .error fault =>
          ⟨result.node :: pass.nodes, pass.world, pass.failed + 1,
            failureRecord result.node fault :: pass.records⟩

/-- Steps every node once. -/
def run (scheduler : Scheduler ν) (world : σ) : Pass ν σ × Scheduler ν :=
  let pass := runNodes world scheduler.nodes
  (pass, ⟨pass.nodes, saturatingAdd scheduler.failures (UInt32.ofNat pass.failed)⟩)

end Scheduler

end FlightBus

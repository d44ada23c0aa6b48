import FlightBus.Control.Script
import Mathlib.Data.List.Induction
import Mathlib.Data.List.Nodup
import Mathlib.Tactic.Use

/-!
# Passes of a scheduler

Nodes may be added to a scheduler between its passes, and what is outside of it may change the
world of the nodes then.  However the nodes succeed and fail, each pass gives one turn to every
node that was added so far, in the order in which the nodes were added, and a node sees in its
turn what those before it did to the world.  The failures of all turns are counted, up to the
largest number of 32 bits.

The turns are made visible by nodes that carry a number and a world that keeps the turns that
are taken in it.  A scheduler of such nodes does what it does with the nodes alone.  Nodes are
of an arbitrary type, which may be a sum of others, and act on an arbitrary world.
-/

namespace FlightBus

/-- A node with its number, which is the number of the nodes that were added before it. -/
structure NumberedNode (ν : Type) where
  /-- The number. -/
  number : Nat
  /-- The node. -/
  node : ν

/-- A turn of a node. -/
structure NodeTurn (ν σ : Type) where
  /-- The node before its step. -/
  before : NumberedNode ν
  /-- The world before the step. -/
  world : σ

/-- A world that keeps the turns that are taken in it. -/
structure Chronicle (ν σ : Type) where
  /-- The world. -/
  world : σ
  /-- The turns, in order. -/
  turns : List (NodeTurn ν σ) := []

variable {ν σ : Type}

/-! ### Turns -/

namespace NodeTurn

variable [Node ν σ]

/-- The step that the node takes. -/
def step (turn : NodeTurn ν σ) : NodeStep ν σ :=
  Node.step turn.before.node turn.world

/-- The node after its step. -/
def after (turn : NodeTurn ν σ) : NumberedNode ν :=
  ⟨turn.before.number, turn.step.node⟩

/-- Whether the node failed. -/
def isFailure (turn : NodeTurn ν σ) : Bool :=
  match turn.step.outcome with
  | .ok _ => false
  | .error _ => true

/-- The number of turns in which the node failed. -/
def failures (turns : List (NodeTurn ν σ)) : Nat :=
  turns.countP isFailure

/-- The world that turns leave, each of which starts from the world that the one before it
left. -/
def worldAfter (world : σ) (turns : List (NodeTurn ν σ)) : σ :=
  turns.foldl (fun _ turn => turn.step.world) world

/-- The node of a number after turns: as the latest of its turns left it, and as it was added
if it had none. -/
def latest? (added : List ν) (turns : List (NodeTurn ν σ)) (number : Nat) : Option ν :=
  ((turns.reverse.find? (fun turn => turn.before.number = number)).map
    (fun turn => turn.step.node)).or added[number]?

theorem failures_append (turns others : List (NodeTurn ν σ)) :
  failures (turns ++ others) = failures turns + failures others
  := List.countP_append

theorem failures_le_length (turns : List (NodeTurn ν σ)) :
  failures turns ≤ turns.length
  := List.countP_le_length

/-- A node is as it was added as long as it had no turn. -/
theorem latest?_of_no_turn (added : List ν) {turns : List (NodeTurn ν σ)} {number : Nat}
    (h : ∀ turn ∈ turns, turn.before.number ≠ number) :
  latest? added turns number = added[number]?
  := by
  have hnone : turns.reverse.find? (fun turn => turn.before.number = number) = none := by
    apply List.find?_eq_none.mpr
    intro turn hturn
    simpa using h turn (List.mem_reverse.mp hturn)
  rw [latest?, hnone]
  rfl

/-- Adding a node changes nothing for those that were added before. -/
theorem latest?_concat_of_lt {added : List ν} (node : ν) (turns : List (NodeTurn ν σ))
    {number : Nat} (h : number < added.length) :
  latest? (added ++ [node]) turns number = latest? added turns number
  := by
  rw [latest?, latest?, List.getElem?_append_left h]

/-- When every node has at most one turn in a round, a node that has one is left by it. -/
theorem latest?_append_of_mem (added : List ν) (turns : List (NodeTurn ν σ))
    {round : List (NodeTurn ν σ)} (distinct : (round.map (fun turn => turn.before.number)).Nodup)
    {turn : NodeTurn ν σ} (h : turn ∈ round) :
  latest? added (turns ++ round) turn.before.number = some turn.step.node
  := by
  have hfind : round.reverse.find? (fun other => other.before.number = turn.before.number) =
      some turn := by
    cases hfound : round.reverse.find?
        (fun other => other.before.number = turn.before.number) with
    | none =>
        have habsent := List.find?_eq_none.mp hfound turn (List.mem_reverse.mpr h)
        simp at habsent
    | some other =>
        have hnumber : other.before.number = turn.before.number := by
          simpa using List.find?_some hfound
        have hother := List.mem_reverse.mp (List.mem_of_find?_eq_some hfound)
        rw [List.inj_on_of_nodup_map distinct hother h hnumber]
  rw [latest?, List.reverse_append, List.find?_append, hfind]
  rfl

end NodeTurn

instance [Node ν σ] : Node (NumberedNode ν) (Chronicle ν σ) where
  name numbered := Node.name numbered.node
  id numbered := Node.id numbered.node
  step numbered chronicle :=
    let turn : NodeTurn ν σ := ⟨numbered, chronicle.world⟩
    ⟨turn.step.outcome, turn.after, ⟨turn.step.world, chronicle.turns ++ [turn]⟩⟩

theorem step_numbered [Node ν σ] (node : NumberedNode ν) (before : Chronicle ν σ) :
  let turn : NodeTurn ν σ := ⟨node, before.world⟩
  Node.step node before =
    (⟨turn.step.outcome, turn.after, ⟨turn.step.world, before.turns ++ [turn]⟩⟩ :
      NodeStep (NumberedNode ν) (Chronicle ν σ))
  := rfl

/-! ### A single pass -/

namespace Scheduler

variable [Node ν σ]

/-- The turns of a pass over nodes: one for each node, in order, each in the world that the one
before it left.  The pass leaves the nodes and the world as the turns do, and reports how many
nodes failed. -/
structure IsRound (nodes : List (NumberedNode ν)) (before : Chronicle ν σ)
    (pass : Pass (NumberedNode ν) (Chronicle ν σ)) (round : List (NodeTurn ν σ)) : Prop where
  turns_eq : pass.world.turns = before.turns ++ round
  before_eq : round.map NodeTurn.before = nodes
  after_eq : round.map NodeTurn.after = pass.nodes
  seen_eq : ∀ i turn, round[i]? = some turn →
    turn.world = NodeTurn.worldAfter before.world (round.take i)
  left_eq : pass.world.world = NodeTurn.worldAfter before.world round
  failed_eq : pass.failed = NodeTurn.failures round

/-- The first node of a pass is stepped, and the others in the world that it left. -/
theorem runNodes_cons (node : NumberedNode ν) (nodes : List (NumberedNode ν))
    (before : Chronicle ν σ) :
  let turn : NodeTurn ν σ := ⟨node, before.world⟩
  let others := runNodes ⟨turn.step.world, before.turns ++ [turn]⟩ nodes
  ∃ records, runNodes before (node :: nodes) =
    ⟨turn.after :: others.nodes, others.world, others.failed + NodeTurn.failures [turn], records⟩
  := by
  intro turn others
  cases houtcome : turn.step.outcome with
  | ok _ =>
      have hfailures : NodeTurn.failures [turn] = 0 := by
        simp [NodeTurn.failures, NodeTurn.isFailure, houtcome]
      rw [runNodes, step_numbered, houtcome, hfailures]
      exact ⟨_, rfl⟩
  | error fault =>
      have hfailures : NodeTurn.failures [turn] = 1 := by
        simp [NodeTurn.failures, NodeTurn.isFailure, houtcome]
      rw [runNodes, step_numbered, houtcome, hfailures]
      exact ⟨_, rfl⟩

theorem exists_isRound (nodes : List (NumberedNode ν)) (before : Chronicle ν σ) :
  ∃ round, IsRound nodes before (runNodes before nodes) round
  := by
  induction nodes generalizing before with
  | nil =>
      use []
      exact ⟨(List.append_nil _).symm, rfl, rfl, (fun _ _ h => nomatch h), rfl, rfl⟩
  | cons node nodes ih =>
      let turn : NodeTurn ν σ := ⟨node, before.world⟩
      obtain ⟨round, hround⟩ := ih ⟨turn.step.world, before.turns ++ [turn]⟩
      obtain ⟨records, hpass⟩ := runNodes_cons node nodes before
      use turn :: round
      rw [hpass]
      refine ⟨?_, ?_, ?_, ?_, hround.left_eq, ?_⟩
      · apply hround.turns_eq.trans
        apply List.append_assoc
      · rw [List.map_cons, hround.before_eq]
      · rw [List.map_cons, hround.after_eq]
      · intro i seen h
        cases i with
        | zero =>
            cases h
            rfl
        | succ i => apply hround.seen_eq i seen h
      · dsimp only
        rw [hround.failed_eq, Nat.add_comm, ← NodeTurn.failures_append]
        rfl

/-- The nodes, without their numbers. -/
def bareNodes (nodes : List (NumberedNode ν)) : List ν :=
  nodes.map NumberedNode.node

/-- A pass over nodes with numbers, as one over the nodes. -/
def barePass (pass : Pass (NumberedNode ν) (Chronicle ν σ)) : Pass ν σ :=
  ⟨bareNodes pass.nodes, pass.world.world, pass.failed, pass.records⟩

/-- Neither the numbers nor the turns that are kept change anything in a pass. -/
theorem runNodes_bareNodes (nodes : List (NumberedNode ν)) (before : Chronicle ν σ) :
  runNodes before.world (bareNodes nodes) = barePass (runNodes before nodes)
  := by
  induction nodes generalizing before with
  | nil => rfl
  | cons node nodes ih =>
      let turn : NodeTurn ν σ := ⟨node, before.world⟩
      have hothers := ih ⟨turn.step.world, before.turns ++ [turn]⟩
      have hbare : Node.step node.node before.world = turn.step := rfl
      rw [bareNodes, List.map_cons, runNodes, runNodes, step_numbered, hbare]
      dsimp only
      rw [← bareNodes, hothers]
      cases turn.step.outcome with
      | ok _ => rfl
      | error fault => rfl

end Scheduler

/-! ### Sessions -/

/-- What happens with a scheduler. -/
inductive SchedulerAction (ν σ : Type)
  /-- A node is added. -/
  | add (node : ν)
  /-- The world is changed from outside. -/
  | change (effect : σ → σ)
  /-- The nodes are stepped. -/
  | pass

namespace SchedulerAction

/-- The node that is added. -/
def node? : SchedulerAction ν σ → Option ν
  | .add node => some node
  | .change _ => none
  | .pass => none

/-- The nodes that actions add, in order. -/
def added (actions : List (SchedulerAction ν σ)) : List ν :=
  actions.filterMap node?

/-- An action on nodes with numbers in a world that keeps the turns.  A node that is added
gets the given number. -/
def watch (number : Nat) :
    SchedulerAction ν σ → SchedulerAction (NumberedNode ν) (Chronicle ν σ)
  | .add node => .add ⟨number, node⟩
  | .change effect =>
      .change (fun chronicle => { chronicle with world := effect chronicle.world })
  | .pass => .pass

/-- Actions on nodes with numbers, counted from the given one. -/
def watchAll : Nat → List (SchedulerAction ν σ) →
    List (SchedulerAction (NumberedNode ν) (Chronicle ν σ))
  | _, [] => []
  | number, action :: actions =>
      action.watch number :: watchAll (number + (added [action]).length) actions

theorem added_concat (actions : List (SchedulerAction ν σ)) (action : SchedulerAction ν σ) :
  added (actions ++ [action]) = added actions ++ added [action]
  := List.filterMap_append

theorem watchAll_concat (number : Nat) (actions : List (SchedulerAction ν σ))
    (action : SchedulerAction ν σ) :
  watchAll number (actions ++ [action]) =
    watchAll number actions ++ [action.watch (number + (added actions).length)]
  := by
  induction actions generalizing number with
  | nil => rfl
  | cons first actions ih =>
      have hadded : added (first :: actions) = added [first] ++ added actions :=
        List.filterMap_append (l := [first])
      rw [List.cons_append, watchAll, watchAll, ih, hadded, List.length_append, Nat.add_assoc]
      rfl

end SchedulerAction

/-- A scheduler and the world of its nodes. -/
structure SchedulerSession (ν σ : Type) where
  /-- The scheduler. -/
  scheduler : Scheduler ν := {}
  /-- The world. -/
  world : σ

namespace SchedulerSession

variable [Node ν σ]

/-- Performs an action. -/
def perform (session : SchedulerSession ν σ) : SchedulerAction ν σ → SchedulerSession ν σ
  | .add node => { session with scheduler := (session.scheduler.add node).2 }
  | .change effect => { session with world := effect session.world }
  | .pass =>
      let (pass, scheduler) := session.scheduler.run session.world
      ⟨scheduler, pass.world⟩

/-- Performs actions, in order. -/
def performAll (session : SchedulerSession ν σ) (actions : List (SchedulerAction ν σ)) :
    SchedulerSession ν σ :=
  actions.foldl perform session

/-- A session of nodes with numbers, as one of the nodes. -/
def bare (session : SchedulerSession (NumberedNode ν) (Chronicle ν σ)) :
    SchedulerSession ν σ :=
  ⟨⟨Scheduler.bareNodes session.scheduler.nodes, session.scheduler.failures⟩,
    session.world.world⟩

/-- Actions performed on nodes with numbers, from a scheduler without nodes on. -/
def watched (world : σ) (actions : List (SchedulerAction ν σ)) :
    SchedulerSession (NumberedNode ν) (Chronicle ν σ) :=
  performAll { world := { world } } (SchedulerAction.watchAll 0 actions)

/-- The turns that the nodes have while actions are performed. -/
def turns (world : σ) (actions : List (SchedulerAction ν σ)) : List (NodeTurn ν σ) :=
  (watched world actions).world.turns

theorem performAll_concat (session : SchedulerSession ν σ)
    (actions : List (SchedulerAction ν σ)) (action : SchedulerAction ν σ) :
  session.performAll (actions ++ [action]) = (session.performAll actions).perform action
  := by
  rw [performAll, List.foldl_append]
  rfl

theorem watched_concat (world : σ) (actions : List (SchedulerAction ν σ))
    (action : SchedulerAction ν σ) :
  watched world (actions ++ [action]) =
    (watched world actions).perform (action.watch (SchedulerAction.added actions).length)
  := by
  rw [watched, SchedulerAction.watchAll_concat, performAll_concat, Nat.zero_add, watched]

/-- Watching an action changes nothing in what it does. -/
theorem bare_perform_watch (session : SchedulerSession (NumberedNode ν) (Chronicle ν σ))
    (number : Nat) (action : SchedulerAction ν σ) :
  (session.perform (action.watch number)).bare = session.bare.perform action
  := by
  cases action with
  | add node =>
      change (⟨⟨Scheduler.bareNodes (session.scheduler.nodes ++ [⟨number, node⟩]), _⟩, _⟩ :
        SchedulerSession ν σ) = _
      rw [Scheduler.bareNodes, List.map_append]
      rfl
  | change effect => rfl
  | pass =>
      have hpass := Scheduler.runNodes_bareNodes session.scheduler.nodes session.world
      simp only [perform, Scheduler.run, bare, SchedulerAction.watch]
      rw [hpass]
      rfl

/-- Watching a session changes nothing in what happens. -/
theorem bare_watched (world : σ) (actions : List (SchedulerAction ν σ)) :
  (watched world actions).bare = performAll { world } actions
  := by
  induction actions using List.reverseRecOn with
  | nil => rfl
  | append_singleton actions action ih =>
      rw [watched_concat, bare_perform_watch, ih, performAll_concat]

/-! ### What sessions preserve -/

/-- What the turns of a pass should be, when the given nodes were added and had the given turns
before.  Every node has one turn, in the order in which the nodes were added.  It is then as its
latest turn left it and sees the world that the turn before left.  The pass leaves the world as
the last turn does, and returns the number of nodes that failed. -/
structure IsFair (added : List ν) (history : List (NodeTurn ν σ)) (session : SchedulerSession ν σ)
    (round : List (NodeTurn ν σ)) : Prop where
  numbers_eq : round.map (fun turn => turn.before.number) = List.range added.length
  node_eq : ∀ turn ∈ round,
    NodeTurn.latest? added history turn.before.number = some turn.before.node
  seen_eq : ∀ i turn, round[i]? = some turn →
    turn.world = NodeTurn.worldAfter session.world (round.take i)
  left_eq : (session.scheduler.run session.world).1.world =
    NodeTurn.worldAfter session.world round
  failed_eq : (session.scheduler.run session.world).1.failed = NodeTurn.failures round

/-- How a session of nodes with numbers stands to the nodes that were added.  The nodes are
numbered in order, each is as its latest turn left it, and the failures are counted. -/
structure Sound (added : List ν) (session : SchedulerSession (NumberedNode ν) (Chronicle ν σ)) :
    Prop where
  numbers_eq : session.scheduler.nodes.map NumberedNode.number = List.range added.length
  node_eq : ∀ numbered ∈ session.scheduler.nodes,
    NodeTurn.latest? added session.world.turns numbered.number = some numbered.node
  number_lt : ∀ turn ∈ session.world.turns, turn.before.number < added.length
  failures_eq : added.length < UInt32.size → session.scheduler.failures.toNat =
    min (UInt32.size - 1) (NodeTurn.failures session.world.turns)

namespace Sound

variable {added : List ν} {session : SchedulerSession (NumberedNode ν) (Chronicle ν σ)}

theorem empty (world : σ) :
  Sound [] ({ world := { world } } : SchedulerSession (NumberedNode ν) (Chronicle ν σ))
  where
  numbers_eq := rfl
  node_eq := fun _ h => nomatch h
  number_lt := fun _ h => nomatch h
  failures_eq := fun _ => rfl

/-- The nodes have the numbers below the number of nodes. -/
theorem number_mem_lt (sound : Sound added session) {numbered : NumberedNode ν}
    (h : numbered ∈ session.scheduler.nodes) :
  numbered.number < added.length
  := by
  have hmem := List.mem_map_of_mem (f := NumberedNode.number) h
  rw [sound.numbers_eq] at hmem
  apply List.mem_range.mp hmem

theorem add (sound : Sound added session) (node : ν) :
  Sound (added ++ [node]) (session.perform (.add ⟨added.length, node⟩))
  := by
  have hlength : (added ++ [node]).length = added.length + 1 := List.length_append
  have hnodes : (session.perform (.add ⟨added.length, node⟩)).scheduler.nodes =
      session.scheduler.nodes ++ [⟨added.length, node⟩] := rfl
  refine ⟨?_, ?_, ?_, ?_⟩
  · rw [hnodes, List.map_append, sound.numbers_eq, hlength, List.range_succ]
    rfl
  · intro numbered h
    rw [hnodes] at h
    rcases List.mem_append.mp h with hold | hnew
    · rw [NodeTurn.latest?_concat_of_lt _ _ (sound.number_mem_lt hold)]
      apply sound.node_eq numbered hold
    · rw [List.mem_singleton.mp hnew, NodeTurn.latest?_of_no_turn]
      · apply List.getElem?_concat_length
      · intro turn hturn
        apply Nat.ne_of_lt (sound.number_lt turn hturn)
  · intro turn hturn
    rw [hlength]
    apply Nat.lt_succ_of_lt (sound.number_lt turn hturn)
  · intro hsize
    rw [hlength] at hsize
    apply sound.failures_eq (Nat.lt_of_succ_lt hsize)

theorem change (sound : Sound added session) (effect : σ → σ) :
  Sound added (session.perform
    (.change (fun chronicle => { chronicle with world := effect chronicle.world })))
  := ⟨sound.numbers_eq, sound.node_eq, sound.number_lt, sound.failures_eq⟩

/-- The turns of the next pass. -/
theorem exists_isFair (sound : Sound added session) :
  ∃ round, IsFair added session.world.turns session.bare round ∧
    Scheduler.IsRound session.scheduler.nodes session.world
      (Scheduler.runNodes session.world session.scheduler.nodes) round
  := by
  obtain ⟨round, hround⟩ := Scheduler.exists_isRound session.scheduler.nodes session.world
  have hbare := Scheduler.runNodes_bareNodes session.scheduler.nodes session.world
  refine ⟨round, ⟨?_, ?_, hround.seen_eq, ?_, ?_⟩, hround⟩
  · rw [← sound.numbers_eq, ← hround.before_eq, List.map_map]
    rfl
  · intro turn hturn
    apply sound.node_eq turn.before
    rw [← hround.before_eq]
    apply List.mem_map_of_mem hturn
  · apply (congrArg Pass.world hbare).trans hround.left_eq
  · apply (congrArg Pass.failed hbare).trans hround.failed_eq

theorem pass (sound : Sound added session) {round : List (NodeTurn ν σ)}
    (fair : IsFair added session.world.turns session.bare round)
    (hround : Scheduler.IsRound session.scheduler.nodes session.world
      (Scheduler.runNodes session.world session.scheduler.nodes) round) :
  Sound added (session.perform .pass)
  := by
  have hturns : (session.perform .pass).world.turns = session.world.turns ++ round :=
    hround.turns_eq
  have hnodes : (session.perform .pass).scheduler.nodes = round.map NodeTurn.after :=
    hround.after_eq.symm
  have hdistinct : (round.map (fun turn => turn.before.number)).Nodup := by
    rw [fair.numbers_eq]
    apply List.nodup_range
  refine ⟨?_, ?_, ?_, ?_⟩
  · rw [hnodes, List.map_map, ← fair.numbers_eq]
    rfl
  · intro numbered h
    rw [hnodes] at h
    obtain ⟨turn, hturn, rfl⟩ := List.mem_map.mp h
    rw [hturns]
    apply NodeTurn.latest?_append_of_mem added _ hdistinct hturn
  · intro turn hturn
    rw [hturns] at hturn
    rcases List.mem_append.mp hturn with hold | hnew
    · apply sound.number_lt turn hold
    · have hnumber := List.mem_map_of_mem (f := fun turn => turn.before.number) hnew
      rw [fair.numbers_eq] at hnumber
      apply List.mem_range.mp hnumber
  · intro hsize
    have hlength := congrArg List.length fair.numbers_eq
    rw [List.length_map, List.length_range] at hlength
    have hle := NodeTurn.failures_le_length round
    rw [hlength] at hle
    have hcount := UInt32.toNat_ofNat_of_lt' (Nat.lt_of_le_of_lt hle hsize)
    have hfailures : (session.perform .pass).scheduler.failures =
        saturatingAdd session.scheduler.failures (UInt32.ofNat (NodeTurn.failures round)) := by
      rw [← hround.failed_eq]
      rfl
    rw [hturns, hfailures, toNat_saturatingAdd, hcount, sound.failures_eq hsize,
      NodeTurn.failures_append]
    omega

end Sound

/-- What an action does to the turns: a pass gives fair turns, and nothing else gives any. -/
def Gives (added : List ν) (history : List (NodeTurn ν σ)) (session : SchedulerSession ν σ)
    (round : List (NodeTurn ν σ)) : SchedulerAction ν σ → Prop
  | .add _ => round = []
  | .change _ => round = []
  | .pass => IsFair added history session round

theorem Sound.perform {added : List ν}
    {session : SchedulerSession (NumberedNode ν) (Chronicle ν σ)} (sound : Sound added session)
    (action : SchedulerAction ν σ) :
  ∃ round,
    (session.perform (action.watch added.length)).world.turns = session.world.turns ++ round ∧
    Gives added session.world.turns session.bare round action ∧
    Sound (added ++ SchedulerAction.added [action]) (session.perform (action.watch added.length))
  := by
  cases action with
  | add node => exact ⟨[], (List.append_nil _).symm, rfl, sound.add node⟩
  | change effect =>
      use [], (List.append_nil _).symm, rfl
      change Sound (added ++ []) _
      rw [List.append_nil]
      apply sound.change
  | pass =>
      obtain ⟨round, fair, hround⟩ := sound.exists_isFair
      use round, hround.turns_eq, fair
      change Sound (added ++ []) _
      rw [List.append_nil]
      apply sound.pass fair hround

theorem sound_watched (world : σ) (actions : List (SchedulerAction ν σ)) :
  Sound (SchedulerAction.added actions) (watched world actions)
  := by
  induction actions using List.reverseRecOn with
  | nil => apply Sound.empty
  | append_singleton actions action ih =>
      obtain ⟨round, -, -, sound⟩ := ih.perform action
      rw [watched_concat, SchedulerAction.added_concat]
      apply sound

/-- Whatever nodes are added to a scheduler, however they succeed and fail and whatever else
happens to the world, each pass gives fair turns to the nodes that were added so far, and nothing
else gives turns.  The number of failures that the scheduler reports is that of the turns in
which a node failed, up to the largest number of 32 bits. -/
theorem passes_fair (world : σ) (actions : List (SchedulerAction ν σ)) :
  let session := performAll { world } actions
  let added := SchedulerAction.added actions
  let history := turns world actions
  (watched world actions).bare = session ∧
    (∀ action, ∃ round, turns world (actions ++ [action]) = history ++ round ∧
      Gives added history session round action) ∧
    (added.length < UInt32.size →
      session.scheduler.failures.toNat = min (UInt32.size - 1) (NodeTurn.failures history))
  := by
  intro session added history
  have sound := sound_watched world actions
  have hbare : (watched world actions).bare = session := bare_watched world actions
  refine ⟨hbare, ?_, ?_⟩
  · intro action
    obtain ⟨round, hturns, hgives, -⟩ := sound.perform action
    use round
    rw [turns, watched_concat]
    rw [hbare] at hgives
    exact ⟨hturns, hgives⟩
  · intro hsize
    rw [← hbare]
    apply sound.failures_eq hsize

/-- A node that fails does so in both passes, between which another such node is added. -/
theorem passes_fair_broken :
  let steady : TimedNode := ⟨"steady", 1, 5, ⟨[], 0⟩⟩
  let broken : TimedNode := ⟨"broken", 2, 7, ⟨[some (AnyFault.ofCode .nodeFault)], 0⟩⟩
  let actions : List (SchedulerAction TimedNode ManualClock) :=
    [.add broken, .add steady, .pass, .add broken, .pass]
  (SchedulerAction.added actions).length < UInt32.size ∧
    (performAll { world := ({} : ManualClock) } actions).scheduler.failures.toNat = 3
  := by
  intro steady broken actions
  have hsize : (SchedulerAction.added actions).length < UInt32.size := by decide
  obtain ⟨-, -, hfailures⟩ := passes_fair ({} : ManualClock) actions
  refine ⟨hsize, ?_⟩
  rw [hfailures hsize]
  decide +kernel

end SchedulerSession

end FlightBus

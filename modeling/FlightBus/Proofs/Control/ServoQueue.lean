import FlightBus.Control.Autopilot
import FlightBus.Proofs.Bus.Attempts
import FlightBus.Proofs.Bus.Queues
import FlightBus.Proofs.Bus.Routing

/-!
# The autopilot as a queue

To its host the autopilot is a small machine: it keeps the bytes that are not decided, a queue
of at most ten samples, and the number of commands so far.  With each input the machine
searches the bytes for samples, appends them to the queue, from which the oldest are displaced,
and gives out the command for the head of the queue.

Each stage of a cycle is a step of this machine: the demultiplexer appends to the queue, the
node takes the head and makes the command, and the multiplexer writes the command.  Between
cycles no command waits, no node has failed, and no frame was refused.
-/

namespace FlightBus

/-! ### The machine -/

/-- The state of the machine. -/
structure ServoQueue where
  /-- The bytes that are not decided. -/
  residue : List UInt8 := []
  /-- The samples that wait, the oldest first. -/
  samples : List ImuSample := []
  /-- The number of commands so far. -/
  sent : Nat := 0
deriving DecidableEq, Repr

namespace ServoQueue

/-- The message types that are known, which are the samples alone. -/
def lookup : Lookup :=
  fun id => if id = ImuSample.format.id then some ImuSample.format.descriptor else none

/-- The routing key of the samples. -/
def key : RoutingKey := ⟨MessageId.truncate 9001, ⟨0⟩, ⟨1⟩⟩

/-- The sample in a finding, if it is a frame with one. -/
def sample? : Finding → Option ImuSample
  | .rejected _ => none
  | .frame frame =>
      if frame.key = key then (ImuSample.format.decode frame).toOption else none

/-- The bytes of the command for a sample. -/
def command (sequence : UInt8) (sample : ImuSample) : List UInt8 :=
  let command : ServoCommand :=
    ⟨sample.timestampUs, sample.accX, sample.accY, sample.gyroX, sample.gyroY⟩
  (ServoCommand.format.encode command ⟨0⟩ ⟨1⟩ sequence Packet.blank).bytes

/-- The output for input bytes, and the machine afterwards. -/
def step (queue : ServoQueue) (input : List UInt8) : List UInt8 × ServoQueue :=
  let (findings, residue) := scan lookup (queue.residue ++ input)
  match (queue.samples ++ findings.filterMap sample?).rtake 10 with
  | [] => ([], ⟨residue, [], queue.sent⟩)
  | sample :: samples =>
      (command (UInt8.ofNat queue.sent) sample, ⟨residue, samples, queue.sent + 1⟩)

/-- The outputs for inputs, in order, and the machine afterwards. -/
def stepAll : ServoQueue → List (List UInt8) → List (List UInt8) × ServoQueue
  | queue, [] => ([], queue)
  | queue, input :: inputs =>
      let (output, queue) := queue.step input
      let (outputs, queue) := queue.stepAll inputs
      (output :: outputs, queue)

end ServoQueue

/-- The outputs of an autopilot for inputs, in order, and the autopilot afterwards. -/
def Autopilot.cycleAll : Autopilot → List (List UInt8) → List (List UInt8) × Autopilot
  | autopilot, [] => ([], autopilot)
  | autopilot, input :: inputs =>
      let (output, _, autopilot) := autopilot.cycle input
      let (outputs, autopilot) := autopilot.cycleAll inputs
      (output :: outputs, autopilot)

/-! ### Receiving -/

/-- A demultiplexer that knows samples alone and sends those of one routing key on the first
channel, with the bytes that are not decided. -/
structure Demultiplexer.Listens (demux : Demultiplexer flight) (residue : List UInt8) :
    Prop where
  known_eq : demux.known.find? = ServoQueue.lookup
  bindings_eq : demux.bindings = [(ServoQueue.key, ⟨.imu, ⟨0⟩⟩)]
  window_eq : demux.deframer.window = residue
  stuck : Stuck ServoQueue.lookup residue

namespace Demultiplexer.Listens

variable {demux : Demultiplexer flight} {residue : List UInt8}

theorem delivery?_reaction (listens : demux.Listens residue) (finding : Finding) :
  (demux.reaction finding).delivery? =
    (ServoQueue.sample? finding).map (fun sample => (⟨0⟩, ⟨.imu, sample⟩))
  := by
  cases finding with
  | rejected cause => rfl
  | frame frame =>
      change (demux.action frame (demux.outcome frame)).delivery? = _
      by_cases hkey : frame.key = ServoQueue.key
      · have hbinding : demux.binding? frame.key = some ⟨.imu, ⟨0⟩⟩ := by
          rw [binding?, listens.bindings_eq, hkey, List.lookup_cons_self]
        rw [outcome, hbinding, ServoQueue.sample?, if_pos hkey]
        dsimp only
        cases ImuSample.format.decode frame with
        | error reason => rfl
        | ok sample => rfl
      · have hbinding : demux.binding? frame.key = none := by
          rw [binding?, listens.bindings_eq, List.lookup_cons, beq_eq_false_iff_ne.mpr hkey]
          rfl
        rw [outcome, hbinding, ServoQueue.sample?, if_neg hkey]
        rfl

/-- Consuming bytes sends the samples that are found in them on the first channel. -/
theorem consume (listens : demux.Listens residue) (input : List UInt8) :
  (demux.consume ⟨input, none⟩).1.filterMap Action.delivery? =
      ((scan ServoQueue.lookup (residue ++ input)).1.filterMap ServoQueue.sample?).map
        (fun sample => (⟨0⟩, ⟨.imu, sample⟩)) ∧
    (demux.consume ⟨input, none⟩).2.1.Listens
      (scan ServoQueue.lookup (residue ++ input)).2
  := by
  have hlimit : (⟨input, none⟩ : ChunkedSource).limit ≠ some 0 := by
    intro h
    cases h
  have hstuck : Stuck ServoQueue.lookup demux.deframer.window := by
    rw [listens.window_eq]
    apply listens.stuck
  rw [demux.consume_eq hlimit, consumeBytes_eq, listens.known_eq,
    Deframer.pushAll_eq_drain _ hstuck, listens.window_eq, scan_eq_drain]
  constructor
  · rw [List.filterMap_map, List.map_filterMap]
    apply List.filterMap_congr
    intro finding _
    apply listens.delivery?_reaction
  · exact ⟨listens.known_eq, listens.bindings_eq, rfl, stuck_drain _ _⟩

end Demultiplexer.Listens

/-! ### Channels -/

/-- The hub of an autopilot: samples wait for the second receiver, which is one of the first
channel, and commands for the first receiver, which is one of the second channel. -/
structure Hub.Carries (hub : Hub flight.Message) (samples : List ImuSample)
    (commands : List ServoCommand) : Prop where
  reachable : hub.Reachable
  placed : hub.Placed
  samples_eq : hub.Queues ⟨1⟩ ⟨0⟩ 10 (samples.map (fun sample => ⟨.imu, sample⟩))
  commands_eq : hub.Queues ⟨0⟩ ⟨1⟩ 10 (commands.map (fun command => ⟨.servo, command⟩))

namespace Hub.Carries

variable {hub : Hub flight.Message} {samples : List ImuSample} {commands : List ServoCommand}

/-- Samples that are delivered are appended to the queue. -/
theorem deliver (carries : hub.Carries samples commands) {actions : List (Action flight)}
    {new : List ImuSample}
    (h : actions.filterMap Action.delivery? =
      new.map (fun sample => (⟨0⟩, ⟨.imu, sample⟩))) :
  (hub.deliver actions).Carries ((samples ++ new).rtake 10) commands
  := by
  have hmessages (c : ChannelId) : messagesOn c (actions.filterMap Action.delivery?) =
      if (⟨0⟩ : ChannelId) = c then new.map (fun sample => ⟨.imu, sample⟩) else [] := by
    rw [h, ← messagesOn_map, List.map_map]
    rfl
  have hsamples := carries.samples_eq.deliver carries.placed actions
  have hcommands := carries.commands_eq.deliver carries.placed actions
  have hne : (⟨0⟩ : ChannelId) ≠ ⟨1⟩ := by decide
  rw [hmessages, if_pos rfl, ← List.map_append, ← map_rtake] at hsamples
  rw [hmessages, if_neg hne, List.append_nil,
    rtake_of_length_le carries.commands_eq.length_le] at hcommands
  exact ⟨carries.reachable.deliver actions,
    carries.placed.of_places (places_deliver hub actions), hsamples, hcommands⟩

/-- The node takes the sample at the head of the queue and sends the command for it. -/
theorem run (carries : hub.Carries samples []) :
  ((⟨⟨1⟩, ⟨1⟩⟩ : ServoDriver).run hub).Carries samples.tail
    (samples.head?.toList.map ImuSample.toServoCommand)
  := by
  obtain ⟨reachable, placed, hsamples, hcommands⟩ := carries
  obtain ⟨hmessage, hrest⟩ := hsamples.take
  have hidle := hcommands.take_of_ne (show (⟨1⟩ : ReceiverId) ≠ ⟨0⟩ by decide)
  have hreachable := reachable.take ⟨1⟩
  have hplaced := placed.of_places (places_take hub ⟨1⟩)
  rw [ServoDriver.run]
  dsimp only
  generalize hub.take ⟨1⟩ = taken at hmessage hrest hidle hreachable hplaced
  obtain ⟨message, after⟩ := taken
  cases hmessage
  cases samples with
  | nil => exact ⟨hreachable, hplaced, hrest, hidle⟩
  | cons sample samples =>
      have hne : (⟨0⟩ : ChannelId) ≠ ⟨1⟩ := by decide
      refine ⟨hreachable.sendCopies _ _, ?_, ?_, ?_⟩
      · apply hplaced.of_places (places_sendCopies _ _ _)
      · apply hrest.send_of_ne hplaced hne
      · apply hidle.send hplaced

end Hub.Carries

/-! ### Transmitting -/

/-- A multiplexer with the first receiver, which has written a number of frames and was never
refused one. -/
structure Multiplexer.Sends (mux : Multiplexer) (sent : Nat) : Prop where
  outlets_eq : mux.outlets = [⟨⟨0⟩, ⟨0⟩, ⟨1⟩⟩]
  sequence_eq : mux.sequence = UInt8.ofNat sent
  refused_eq : mux.refused = 0

/-- Commands, as messages to be transmitted. -/
def ServoCommand.traffic (commands : List ServoCommand) : Traffic flight :=
  commands.map (fun command => (⟨⟨0⟩, ⟨0⟩, ⟨1⟩⟩, ⟨.servo, command⟩))

/-- Flushing the multiplexer writes the commands that wait, and leaves none. -/
theorem Multiplexer.Sends.flush {mux : Multiplexer} {sent : Nat} (sends : mux.Sends sent)
    {hub : Hub flight.Message} {samples : List ImuSample} {commands : List ServoCommand}
    (carries : hub.Carries samples commands) :
  (mux.flush hub ({} : GrowableSink)).2.sink.contents =
      Traffic.stream (UInt8.ofNat sent) (ServoCommand.traffic commands) ∧
    (mux.flush hub ({} : GrowableSink)).2.mux.Sends (sent + commands.length) ∧
    (mux.flush hub ({} : GrowableSink)).1.Carries samples []
  := by
  have sound := carries.reachable.sound
  have distinct : mux.outlets.Pairwise
      (fun outlet other => outlet.receiver ≠ other.receiver) := by
    rw [sends.outlets_eq]
    apply List.pairwise_singleton
  have hpending : mux.pending hub = ServoCommand.traffic commands := by
    rw [pending, sends.outlets_eq, List.flatMap_singleton, carries.commands_eq.waiting_eq,
      List.map_map]
    rfl
  have hemitted := flush_eq_emitAll sound distinct ({} : GrowableSink)
  have htransmits := transmits_emitAll { mux, sink := ({} : GrowableSink) } (mux.pending hub)
  have hhub : (mux.flush hub ({} : GrowableSink)).1 = (hub.takeAll ⟨0⟩).2 := by
    rw [Multiplexer.flush, sends.outlets_eq]
    rfl
  refine ⟨?_, ⟨?_, ?_, ?_⟩, ?_⟩
  · rw [contents_flush sound distinct, sends.sequence_eq, hpending]
    rfl
  · rw [outlets_flush sound distinct, sends.outlets_eq]
  · rw [hemitted, htransmits.sequence_eq, hpending, ServoCommand.traffic, List.length_map,
      UInt8.ofNat_add]
    apply congrArg (· + _) sends.sequence_eq
  · rw [hemitted, refused_emitAll]
    apply sends.refused_eq
  · rw [hhub]
    refine ⟨carries.reachable.takeAll _, ?_, ?_, carries.commands_eq.takeAll⟩
    · apply carries.placed.of_places (Hub.places_takeAll _ _)
    · apply carries.samples_eq.takeAll_of_ne
      decide

/-- The command that is transmitted alone. -/
theorem ServoQueue.stream_toServoCommand (sequence : UInt8) (sample : ImuSample) :
  Traffic.stream sequence (ServoCommand.traffic [sample.toServoCommand]) =
    command sequence sample
  := by
  change _ ++ [] = _
  rw [List.append_nil, command, Format.bytes_encode]
  rfl

/-! ### Cycles -/

namespace Autopilot

/-- The state of an autopilot between two cycles, as a state of the machine. -/
structure Refines (autopilot : Autopilot) (queue : ServoQueue) : Prop where
  listens : autopilot.loop.demux.Listens queue.residue
  nodes_eq : autopilot.loop.scheduler.nodes = [⟨⟨1⟩, ⟨1⟩⟩]
  failures_eq : autopilot.loop.scheduler.failures = 0
  sends : autopilot.loop.mux.Sends queue.sent
  carries : autopilot.world.hub.Carries queue.samples []

/-- A pass over the node takes a sample and reports no failure. -/
theorem run_scheduler {scheduler : Scheduler ServoDriver} {node : ServoDriver}
    (nodes_eq : scheduler.nodes = [node]) (failures_eq : scheduler.failures = 0)
    (world : World flight Unit) :
  scheduler.run world = (⟨[node], { world with hub := node.run world.hub }, 0, []⟩, ⟨[node], 0⟩)
  := by
  rw [Scheduler.run, nodes_eq, failures_eq]
  rfl

/-- The stages of a cycle: the demultiplexer consumes the input, the node takes a sample, and
the multiplexer is flushed. -/
theorem Refines.cycle_eq {autopilot : Autopilot} {queue : ServoQueue}
    (refines : autopilot.Refines queue) (input : List UInt8) :
  let consumed := autopilot.loop.demux.consume ⟨input, none⟩
  let hub := (⟨⟨1⟩, ⟨1⟩⟩ : ServoDriver).run (autopilot.world.hub.deliver consumed.1)
  let flushed := autopilot.loop.mux.flush hub ({} : GrowableSink)
  (autopilot.cycle input).1 = flushed.2.sink.contents ∧
    (autopilot.cycle input).2.2 =
      ⟨⟨consumed.2.1, ⟨[⟨⟨1⟩, ⟨1⟩⟩], 0⟩, flushed.2.mux⟩, ⟨flushed.1, ()⟩⟩
  := by
  intro consumed hub flushed
  have hpass := run_scheduler refines.nodes_eq refines.failures_eq
    { autopilot.world with hub := autopilot.world.hub.deliver consumed.1 }
  simp only [Autopilot.cycle, ControlLoop.cycle, ControlLoop.receive, ControlLoop.transmit]
  rw [hpass]
  exact ⟨rfl, rfl⟩

/-- A cycle of an autopilot is a step of the machine. -/
theorem Refines.cycle {autopilot : Autopilot} {queue : ServoQueue}
    (refines : autopilot.Refines queue) (input : List UInt8) :
  (autopilot.cycle input).1 = (queue.step input).1 ∧
    (autopilot.cycle input).2.2.Refines (queue.step input).2
  := by
  obtain ⟨hdeliveries, hlistens⟩ := refines.listens.consume input
  have hrun := (refines.carries.deliver hdeliveries).run
  obtain ⟨hcontents, hsends, hcarries⟩ := refines.sends.flush hrun
  obtain ⟨houtput, hafter⟩ := refines.cycle_eq input
  rw [houtput, hafter, hcontents, ServoQueue.step]
  dsimp only
  split
  · rename_i hwaiting
    rw [hwaiting] at hsends hcarries ⊢
    exact ⟨rfl, hlistens, rfl, rfl, hsends, hcarries⟩
  · rename_i sample samples hwaiting
    have hfirst : (sample :: samples).head?.toList.map ImuSample.toServoCommand =
        [sample.toServoCommand] := rfl
    rw [hwaiting] at hsends hcarries ⊢
    rw [hfirst, List.length_singleton] at hsends
    rw [hfirst, ServoQueue.stream_toServoCommand]
    dsimp only
    exact ⟨rfl, hlistens, rfl, rfl, hsends, hcarries⟩

theorem Refines.cycleAll {autopilot : Autopilot} {queue : ServoQueue}
    (refines : autopilot.Refines queue) (inputs : List (List UInt8)) :
  (autopilot.cycleAll inputs).1 = (queue.stepAll inputs).1 ∧
    (autopilot.cycleAll inputs).2.Refines (queue.stepAll inputs).2
  := by
  induction inputs generalizing autopilot queue with
  | nil => exact ⟨rfl, refines⟩
  | cons input inputs ih =>
      obtain ⟨houtput, hnext⟩ := refines.cycle input
      obtain ⟨houtputs, hlast⟩ := ih hnext
      constructor
      · apply congrArg₂ List.cons houtput houtputs
      · apply hlast

/-! ### The autopilot that is put together -/

theorem find?_insert_sample :
  (DescriptorTable.insert {} ImuSample.format.descriptor).find? = ServoQueue.lookup
  := by
  funext id
  rw [ServoQueue.lookup]
  split
  · rename_i hid
    rw [hid]
    apply DescriptorTable.find?_insert_self
  · rename_i hid
    rw [DescriptorTable.find?_insert_of_ne _ hid]
    rfl

/-- The hub of an autopilot that is put together: two channels, the first receiver on the
second channel and the second receiver on the first. -/
theorem carries_assembled :
  let opened := ({} : Hub flight.Message).openChannel.2.openChannel.2
  let published := ((opened.retain ⟨0⟩).subscribe ⟨1⟩ queueDepth queueDepth_pos).2
  let subscribed := (published.subscribe ⟨0⟩ queueDepth queueDepth_pos).2
  (((subscribed.retain ⟨1⟩).release ⟨0⟩).release ⟨1⟩).Carries [] []
  := by
  intro opened published subscribed
  have hopened : opened.Placed :=
    (Hub.placed_empty.of_places (Hub.places_openChannel _)).of_places
      (Hub.places_openChannel _)
  have hpublished : published.Placed := by
    apply (hopened.of_places (Hub.places_retain _ ⟨0⟩)).subscribe
    decide
  have hsubscribed : subscribed.Placed := by
    apply hpublished.subscribe
    decide
  refine ⟨?_, ?_, ?_, ?_⟩
  · apply Hub.Reachable.release
    apply Hub.Reachable.release
    apply Hub.Reachable.retain
    apply Hub.Reachable.subscribe
    apply Hub.Reachable.subscribe
    apply Hub.Reachable.retain
    apply Hub.Reachable.openChannel
    apply Hub.Reachable.openChannel
    apply Hub.Reachable.empty
  · apply hsubscribed.of_places
    apply (Hub.places_retain _ ⟨1⟩).trans
    apply (Hub.places_release _ ⟨0⟩).trans
    apply Hub.places_release
  · exact ⟨_, rfl, rfl, RingBuffer.capacity_new _ queueDepth_pos,
      RingBuffer.represents_new _ queueDepth_pos⟩
  · exact ⟨_, rfl, rfl, RingBuffer.capacity_new _ queueDepth_pos,
      RingBuffer.represents_new _ queueDepth_pos⟩

/-- The autopilot can be put together, and is then in the first state of the machine. -/
theorem exists_assemble :
  ∃ autopilot records, assemble = .ok (autopilot, records) ∧ autopilot.Refines {}
  := by
  refine ⟨_, _, rfl, ?_⟩
  exact ⟨⟨find?_insert_sample, rfl, rfl, .nil⟩, rfl, rfl, ⟨rfl, rfl, rfl⟩, carries_assembled⟩

/-- The autopilot can be put together, and whatever inputs it is then given, its outputs are
those of the machine and its state is that of the machine.  There are never more than ten
samples that wait, and between cycles no command waits for the receiver of the multiplexer, no
node has failed, and no frame was refused. -/
theorem cycleAll_eq_stepAll :
  ∃ autopilot records, assemble = .ok (autopilot, records) ∧
    ∀ inputs : List (List UInt8),
      let after := (autopilot.cycleAll inputs).2
      let queue := (ServoQueue.stepAll {} inputs).2
      (autopilot.cycleAll inputs).1 = (ServoQueue.stepAll {} inputs).1 ∧
        after.Refines queue ∧ queue.samples.length ≤ 10 ∧
        (∃ outlet, after.loop.mux.outlets = [outlet] ∧
          after.world.hub.isLive outlet.receiver = true ∧
          after.world.hub.waiting outlet.receiver = []) ∧
        after.loop.scheduler.failures = 0 ∧ after.loop.mux.refused = 0
  := by
  obtain ⟨autopilot, records, hassemble, hfirst⟩ := exists_assemble
  refine ⟨autopilot, records, hassemble, ?_⟩
  intro inputs after queue
  obtain ⟨houtputs, refines⟩ := hfirst.cycleAll inputs
  have hcommands := refines.carries.commands_eq
  refine ⟨houtputs, refines, ?_, ?_, refines.failures_eq, refines.sends.refused_eq⟩
  · have hlength := refines.carries.samples_eq.length_le
    rw [List.length_map] at hlength
    apply hlength
  · refine ⟨_, refines.sends.outlets_eq, ?_, hcommands.waiting_eq⟩
    obtain ⟨receiver, hreceiver, -⟩ := hcommands
    apply Hub.isLive_iff.mpr ⟨receiver, hreceiver⟩

/-- A sample that is cut in two, a second one behind it, and no input after that: the commands
for the samples are given out one cycle after the other. -/
example :
    let sample := [0xfd, 12, 0, 0, 0, 0, 1, 41, 35, 0, 5, 0, 0, 0, 0, 0, 0, 0, 0, 0, 128, 63, 73,
      215]
    assemble.toOption.map (fun assembled =>
        (assembled.1.cycleAll [sample.take 9, sample.drop 9 ++ sample, [], []]).1) =
      some [[],
        [0xfd, 12, 0, 0, 0, 0, 1, 42, 35, 0, 5, 0, 0, 0, 0, 0, 0, 0, 0, 0, 128, 63, 195, 252],
        [0xfd, 12, 0, 0, 1, 0, 1, 42, 35, 0, 5, 0, 0, 0, 0, 0, 0, 0, 0, 0, 128, 63, 138, 111],
        []] := by
  decide +kernel

end Autopilot

end FlightBus

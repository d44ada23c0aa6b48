import FlightBus.Proofs.Bus.Routing
import FlightBus.Proofs.Bus.Transmission
import FlightBus.Proofs.Message.Reading

/-!
# From multiplexer to demultiplexer

What a multiplexer transmits arrives: a demultiplexer that consumes the bytes sends every
message that waited, unchanged, on the channel that its routing key is bound to, in the
order in which the messages were transmitted, and counts nothing but these messages.
-/

namespace FlightBus

namespace Traffic

variable {D : Dialect}

/-- The routing key of a message. -/
def key (entry : Outlet × D.Message) : RoutingKey :=
  ⟨(D.format entry.2.1).id, entry.1.system, entry.1.component⟩

/-- The routing key of every message is bound to its type and to a channel, and the message
type is faithful. -/
def BoundIn (demux : Demultiplexer D) (channel : RoutingKey → ChannelId)
    (traffic : Traffic D) : Prop :=
  ∀ entry ∈ traffic, (D.format entry.2.1).Faithful ∧
    demux.binding? (key entry) = some ⟨entry.2.1, channel (key entry)⟩

/-- A frame of a message whose routing key is bound is dispatched. -/
theorem outcome_frame {demux : Demultiplexer D} {channel : ChannelId} {outlet : Outlet}
    {message : D.Message} (sequence : UInt8) (faithful : (D.format message.1).Faithful)
    (bound : demux.binding? (key (outlet, message)) = some ⟨message.1, channel⟩) :
  demux.outcome (frame sequence outlet message) = .dispatched channel message
  := by
  have hkey : (frame sequence outlet message).key = key (outlet, message) := rfl
  have hdecode := faithful.decode_frame message.2 outlet.system outlet.component sequence
  rw [Demultiplexer.outcome, hkey, bound]
  dsimp only
  rw [frame, hdecode]

theorem map_reaction_frames {demux : Demultiplexer D} {channel : RoutingKey → ChannelId}
    {traffic : Traffic D} (sequence : UInt8) (bound : BoundIn demux channel traffic) :
  ((frames sequence traffic).map Finding.frame).map demux.reaction =
    traffic.map (fun entry => .deliver (channel (key entry)) entry.2)
  := by
  induction traffic generalizing sequence with
  | nil => rfl
  | cons entry traffic ih =>
      obtain ⟨⟨faithful, hbinding⟩, hothers⟩ := List.forall_mem_cons.mp bound
      have houtcome := outcome_frame sequence faithful hbinding
      rw [frames, List.map_cons, List.map_cons, List.map_cons, ih (sequence + 1) hothers]
      congr 1
      change demux.action _ (demux.outcome (frame sequence entry.1 entry.2)) = _
      rw [houtcome]
      rfl

theorem foldl_countFinding_frames {demux : Demultiplexer D}
    {channel : RoutingKey → ChannelId} {traffic : Traffic D} (sequence : UInt8)
    (bound : BoundIn demux channel traffic) (counts : RoutingCounts) :
  ((frames sequence traffic).map Finding.frame).foldl demux.countFinding counts =
    { counts with dispatched := counts.dispatched + UInt32.ofNat traffic.length }
  := by
  induction traffic generalizing sequence counts with
  | nil =>
      change counts = { counts with dispatched := counts.dispatched + 0 }
      rw [UInt32.add_zero]
  | cons entry traffic ih =>
      obtain ⟨⟨faithful, hbinding⟩, hothers⟩ := List.forall_mem_cons.mp bound
      have houtcome := outcome_frame sequence faithful hbinding
      have hfirst : demux.countFinding counts (.frame (frame sequence entry.1 entry.2)) =
          { counts with dispatched := counts.dispatched + 1 } := by
        rw [Demultiplexer.countFinding, houtcome]
        rfl
      rw [frames, List.map_cons, List.foldl_cons, hfirst, ih (sequence + 1) hothers,
        List.length_cons, Nat.add_comm traffic.length 1, UInt32.ofNat_add,
        ← UInt32.add_assoc]
      rfl

/-- What is sent on a channel are the messages whose routing keys belong to it. -/
theorem filter_deliveries (channel : RoutingKey → ChannelId) (traffic : Traffic D)
    (c : ChannelId) :
  ((traffic.map (fun entry => Action.deliver (channel (key entry)) entry.2)).filterMap
      Action.delivery?).filter (fun delivery => delivery.1 = c) =
    (traffic.filter (fun entry => channel (key entry) = c)).map (fun entry => (c, entry.2))
  := by
  induction traffic with
  | nil => rfl
  | cons entry traffic ih =>
      change List.filter _ ((channel (key entry), entry.2) :: List.filterMap _ _) = _
      rw [List.filter_cons, List.filter_cons, ih]
      by_cases hc : channel (key entry) = c
      · subst hc
        rw [if_pos (by simp), if_pos (by simp), List.map_cons]
      · rw [if_neg (by simpa using hc), if_neg (by simpa using hc)]

end Traffic

namespace Demultiplexer

variable {D : Dialect}

/-- Consuming the frames of messages whose routing keys are bound delivers the messages, in
order, and counts them. -/
theorem consumeBytes_stream {demux : Demultiplexer D} {channel : RoutingKey → ChannelId}
    {traffic : Traffic D} (sequence : UInt8) (consistent : demux.Consistent)
    (empty : demux.deframer.window = []) (bound : Traffic.BoundIn demux channel traffic) :
  demux.consumeBytes (Traffic.stream sequence traffic) =
    (traffic.map (fun entry => .deliver (channel (Traffic.key entry)) entry.2),
      { demux with
        deframer :=
          ⟨[], { demux.deframer.counts with
            frames := demux.deframer.counts.frames + UInt32.ofNat traffic.length }⟩
        counts := { demux.counts with
          dispatched := demux.counts.dispatched + UInt32.ofNat traffic.length } })
  := by
  have hknown : Traffic.Known demux.known.find? traffic := by
    intro entry hmem
    apply consistent _ _ (bound entry hmem).2
  have hstuck : Stuck demux.known.find? demux.deframer.window := by
    rw [empty]
    apply Stuck.nil
  rw [consumeBytes_eq, Deframer.pushAll_eq_drain _ hstuck, empty, List.nil_append,
    Traffic.drain_stream sequence hknown]
  dsimp only
  rw [Traffic.map_reaction_frames sequence bound,
    Traffic.foldl_countFinding_frames sequence bound, FindingCounts.addAll_frames,
    Traffic.length_frames]

end Demultiplexer

/-! ### The flight dialect -/

variable {E : Dialect}

/-- The messages of the flight dialect that wait for the receivers of a multiplexer arrive
at a demultiplexer whose window is empty and that has bindings for their routing keys:
flushing the multiplexer into a sink that takes everything, and consuming what was written,
sends them unchanged on the channels of the bindings, receiver by receiver and the oldest
first, so that on each channel there are sent the messages whose routing keys are bound to
it.  The demultiplexer counts as many more frames and dispatched messages as there are
messages, and nothing else, and its window is empty again.  It may have bindings for other
message types as well. -/
theorem consume_flush {mux : Multiplexer} {hub : Hub (flight.sum E).Message}
    {demux : Demultiplexer (flight.sum E)} {sink : GrowableSink} {source : ChunkedSource}
    {channel : RoutingKey → ChannelId}
    (hubReachable : hub.Reachable)
    (distinct :
      mux.outlets.Pairwise (fun outlet other => outlet.receiver ≠ other.receiver))
    (typed : ∀ entry ∈ mux.pending hub, ∃ kind value, entry.2 = ⟨.inl kind, value⟩)
    (demuxReachable : demux.Reachable)
    (empty : demux.deframer.window = [])
    (bound : ∀ entry ∈ mux.pending hub,
      demux.binding? (Traffic.key entry) = some ⟨entry.2.1, channel (Traffic.key entry)⟩)
    (fed : (mux.flush hub sink).2.sink.contents = sink.contents ++ source.rest)
    (limited : source.limit ≠ some 0) :
  let pending := mux.pending hub
  let result := demux.consume source
  result.1 = pending.map (fun entry => .deliver (channel (Traffic.key entry)) entry.2) ∧
    (∀ c, (result.1.filterMap Action.delivery?).filter (fun delivery => delivery.1 = c) =
      (pending.filter (fun entry => channel (Traffic.key entry) = c)).map
        (fun entry => (c, entry.2))) ∧
    result.2.1 =
      { demux with
        deframer :=
          ⟨[], { demux.deframer.counts with
            frames := demux.deframer.counts.frames + UInt32.ofNat pending.length }⟩
        counts := { demux.counts with
          dispatched := demux.counts.dispatched + UInt32.ofNat pending.length } }
  := by
  intro pending result
  have hrest : source.rest = Traffic.stream mux.sequence pending := by
    rw [Multiplexer.contents_flush hubReachable.sound distinct] at fed
    symm
    apply List.append_cancel_left fed
  have hbound : Traffic.BoundIn demux channel pending := by
    intro entry hmem
    obtain ⟨kind, value, hmessage⟩ := typed entry hmem
    constructor
    · rw [hmessage]
      apply flight.faithful_format kind
    · apply bound entry hmem
  have hresult : result = _ := demux.consume_eq limited
  rw [hrest, Demultiplexer.consumeBytes_stream mux.sequence demuxReachable.consistent empty
    hbound] at hresult
  rw [hresult]
  refine ⟨rfl, ?_, rfl⟩
  apply Traffic.filter_deliveries

/-- Two link tests wait for one receiver and two commands to the servos for another, the second
with values that are no numbers.  They arrive on the channels of their bindings, although the
sequence number goes round on the way. -/
theorem consume_flush_two_receivers :
  let test (n : UInt32) : (flight.sum flight).Message := ⟨.inl .linkTest, ⟨n, Single.zero⟩⟩
  let servo (s : Single) : (flight.sum flight).Message := ⟨.inl .servo, ⟨-1, s, s, s, s⟩⟩
  let opened := ({} : Hub (flight.sum flight).Message).openChannel.2.openChannel.2
  let subscribed :=
    ((opened.subscribe ⟨0⟩ 2 (by decide)).2.subscribe ⟨1⟩ 3 (by decide)).2
  let hub := (((subscribed.send ⟨1⟩ (servo ⟨1⟩)).send ⟨0⟩ (test 7)).send ⟨0⟩ (test 8)).send
    ⟨1⟩ (servo ⟨0x7fc00001⟩)
  let mux : Multiplexer :=
    { outlets := [⟨⟨0⟩, ⟨1⟩, ⟨1⟩⟩, ⟨⟨1⟩, ⟨1⟩, ⟨2⟩⟩], sequence := 254 }
  let source : ChunkedSource :=
    ⟨(mux.flush hub ({} : GrowableSink)).2.sink.contents, some 7⟩
  let idle : Demultiplexer (flight.sum flight) := { input := 0 }
  ∃ tested demux : Demultiplexer (flight.sum flight),
    idle.bind (.inl .linkTest) ⟨1⟩ ⟨1⟩ ⟨0⟩ = .ok tested ∧
      tested.bind (.inl .servo) ⟨1⟩ ⟨2⟩ ⟨1⟩ = .ok demux ∧
      mux.pending hub =
        [(⟨⟨0⟩, ⟨1⟩, ⟨1⟩⟩, test 7), (⟨⟨0⟩, ⟨1⟩, ⟨1⟩⟩, test 8), (⟨⟨1⟩, ⟨1⟩, ⟨2⟩⟩, servo ⟨1⟩),
          (⟨⟨1⟩, ⟨1⟩, ⟨2⟩⟩, servo ⟨0x7fc00001⟩)] ∧
      (demux.consume source).1 =
        [.deliver ⟨0⟩ (test 7), .deliver ⟨0⟩ (test 8), .deliver ⟨1⟩ (servo ⟨1⟩),
          .deliver ⟨1⟩ (servo ⟨0x7fc00001⟩)] ∧
      (demux.consume source).2.1.counts = ⟨4, 0, 0⟩
  := by
  intro test servo opened subscribed hub mux source idle
  let channel (key : RoutingKey) : ChannelId := if key.component = ⟨1⟩ then ⟨0⟩ else ⟨1⟩
  have hpending : mux.pending hub =
      [(⟨⟨0⟩, ⟨1⟩, ⟨1⟩⟩, test 7), (⟨⟨0⟩, ⟨1⟩, ⟨1⟩⟩, test 8), (⟨⟨1⟩, ⟨1⟩, ⟨2⟩⟩, servo ⟨1⟩),
        (⟨⟨1⟩, ⟨1⟩, ⟨2⟩⟩, servo ⟨0x7fc00001⟩)] := by
    revert test servo opened mux
    rfl
  have reachable : hub.Reachable := by
    apply Hub.Reachable.sendCopies
    apply Hub.Reachable.sendCopies
    apply Hub.Reachable.sendCopies
    apply Hub.Reachable.sendCopies
    apply Hub.Reachable.subscribe
    apply Hub.Reachable.subscribe
    apply Hub.Reachable.openChannel
    apply Hub.Reachable.openChannel
    apply Hub.Reachable.empty
  obtain ⟨tested, htested⟩ : ∃ tested : Demultiplexer (flight.sum flight),
      idle.bind (.inl .linkTest) ⟨1⟩ ⟨1⟩ ⟨0⟩ = .ok tested := ⟨_, rfl⟩
  obtain ⟨-, htable⟩ := Demultiplexer.bind_eq_ok htested
  obtain ⟨demux, hdemux⟩ : ∃ demux : Demultiplexer (flight.sum flight),
      tested.bind (.inl .servo) ⟨1⟩ ⟨2⟩ ⟨1⟩ = .ok demux := by
    rw [htable]
    exact ⟨_, rfl⟩
  obtain ⟨-, hfields⟩ := Demultiplexer.bind_eq_ok hdemux
  rw [htable] at hfields
  have empty : demux.deframer.window = [] := by
    rw [hfields]
  have typed : ∀ entry ∈ mux.pending hub, ∃ kind value, entry.2 = ⟨.inl kind, value⟩ := by
    rw [hpending]
    simp only [List.forall_mem_cons]
    exact ⟨⟨_, _, rfl⟩, ⟨_, _, rfl⟩, ⟨_, _, rfl⟩, ⟨_, _, rfl⟩, List.forall_mem_nil _⟩
  have demuxReachable : demux.Reachable :=
    .bind _ _ _ _ (.bind _ _ _ _ (.new 0) htested) hdemux
  have bound : ∀ entry ∈ mux.pending hub,
      demux.binding? (Traffic.key entry) = some ⟨entry.2.1, channel (Traffic.key entry)⟩ := by
    rw [hpending, hfields]
    simp only [List.forall_mem_cons]
    exact ⟨rfl, rfl, rfl, rfl, List.forall_mem_nil _⟩
  have limited : source.limit ≠ some 0 := by
    intro h
    cases h
  have distinct :
      mux.outlets.Pairwise (fun outlet other => outlet.receiver ≠ other.receiver) := by
    decide
  have fed : (mux.flush hub ({} : GrowableSink)).2.sink.contents =
      ({} : GrowableSink).contents ++ source.rest := by
    rw [List.nil_append]
  have arrives := @consume_flush flight mux hub demux {} source channel reachable distinct typed
    demuxReachable empty bound fed limited
  refine ⟨tested, demux, htested, hdemux, hpending, ?_, ?_⟩
  · rw [arrives.1, hpending]
    rfl
  · rw [arrives.2.2, hpending, hfields]
    rfl

end FlightBus

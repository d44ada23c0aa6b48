import FlightBus.Bus.Demultiplexer
import FlightBus.Proofs.Frame.Schedule
import Mathlib.Tactic.ByContra

/-!
# Routing

What a demultiplexer does with a finding depends on its bindings alone, so that findings can
be handled one by one, and bytes can be consumed in pieces as well as at once.  In a
demultiplexer that came about by its operations, the message type of every binding is known
by its descriptor.
-/

namespace FlightBus

/-! ### Reads -/

namespace ChunkedSource

/-- The reads of a source that gives something at once give all of its bytes, and leave it
dry. -/
theorem readAll_eq {source : ChunkedSource} {size : Nat} (hsize : 0 < size)
    (hlimit : source.limit ≠ some 0) :
  (source.readAll size).1.flatten = source.rest ∧
    (source.readAll size).2 = { source with rest := [] }
  := by
  induction hlength : source.rest.length using Nat.strongRecOn generalizing source with
  | ind length ih =>
      rw [readAll]
      split
      · rename_i hzero
        have hempty : source.rest = [] := by
          apply List.eq_nil_of_length_eq_zero
          rw [readSize] at hzero
          split at hzero
          · omega
          · rename_i limit hsome
            have hpos : limit ≠ 0 := by
              intro hzero
              apply hlimit
              rw [hsome, hzero]
            omega
        rw [hempty]
        constructor
        · rfl
        · rw [← hempty]
      · rename_i hpos
        have hless := length_rest_read hpos
        have hsame : (source.read size).2.limit ≠ some 0 := hlimit
        obtain ⟨hbytes, hdry⟩ :=
          ih (source.read size).2.rest.length (hlength ▸ hless) hsame rfl
        constructor
        · change (source.read size).1 ++ ((source.read size).2.readAll size).1.flatten = _
          rw [hbytes]
          apply List.take_append_drop
        · apply hdry

end ChunkedSource

namespace Demultiplexer

variable {D : Dialect}

/-! ### Findings -/

/-- The action for a finding. -/
def reaction (demux : Demultiplexer D) (finding : Finding) : Action D :=
  (demux.handle finding).1

/-- Counts what becomes of a finding. -/
def countFinding (demux : Demultiplexer D) (counts : RoutingCounts) :
    Finding → RoutingCounts
  | .rejected _ => counts
  | .frame frame => countOutcome counts (demux.outcome frame)

/-- The action for a finding does not depend on the deframer and the numbers. -/
theorem reaction_mk (demux : Demultiplexer D) (deframer : Deframer) (counts : RoutingCounts) :
  reaction { demux with deframer, counts } = demux.reaction
  := by
  funext finding
  cases finding with
  | rejected cause => rfl
  | frame frame => rfl

theorem countFinding_mk (demux : Demultiplexer D) (deframer : Deframer)
    (counts : RoutingCounts) :
  countFinding { demux with deframer, counts } = demux.countFinding
  := by
  funext before finding
  cases finding with
  | rejected cause => rfl
  | frame frame => rfl

/-- What handling a finding leaves. -/
theorem handle_eq (demux : Demultiplexer D) (finding : Finding) :
  demux.handle finding =
    (demux.reaction finding,
      { demux with counts := demux.countFinding demux.counts finding })
  := by
  cases finding with
  | rejected cause => rfl
  | frame frame => rfl

/-- Findings are handled one by one. -/
theorem handleAll_eq (demux : Demultiplexer D) (findings : List Finding) :
  demux.handleAll findings =
    (findings.map demux.reaction,
      { demux with counts := findings.foldl demux.countFinding demux.counts })
  := by
  induction findings generalizing demux with
  | nil => rfl
  | cons finding findings ih =>
      rw [handleAll, handle_eq]
      have hothers := ih { demux with counts := demux.countFinding demux.counts finding }
      rw [reaction_mk demux demux.deframer, countFinding_mk demux demux.deframer] at hothers
      dsimp only
      rw [hothers]
      rfl

/-! ### Bytes -/

/-- Bytes are consumed by pushing them into the deframer and handling its findings. -/
theorem consumeBytes_eq (demux : Demultiplexer D) (bytes : List UInt8) :
  demux.consumeBytes bytes =
    ((demux.deframer.pushAll demux.known.find? bytes).1.map demux.reaction,
      { demux with
        deframer := (demux.deframer.pushAll demux.known.find? bytes).2
        counts := (demux.deframer.pushAll demux.known.find? bytes).1.foldl
          demux.countFinding demux.counts })
  := by
  change handleAll { demux with
    deframer := (demux.deframer.pushAll demux.known.find? bytes).2 } _ = _
  rw [handleAll_eq, reaction_mk demux _ demux.counts, countFinding_mk demux _ demux.counts]

/-- Bytes can be consumed in two pieces. -/
theorem consumeBytes_append (demux : Demultiplexer D) (bytes more : List UInt8) :
  demux.consumeBytes (bytes ++ more) =
    ((demux.consumeBytes bytes).1 ++ ((demux.consumeBytes bytes).2.consumeBytes more).1,
      ((demux.consumeBytes bytes).2.consumeBytes more).2)
  := by
  simp only [consumeBytes_eq, Deframer.pushAll_append, List.map_append, List.foldl_append,
    reaction_mk, countFinding_mk]

/-- Consuming reads one after the other is consuming all of their bytes. -/
theorem consumeReads_eq (demux : Demultiplexer D) (reads : List (List UInt8)) :
  demux.consumeReads reads = demux.consumeBytes reads.flatten
  := by
  induction reads generalizing demux with
  | nil => rfl
  | cons bytes reads ih =>
      rw [List.flatten_cons, consumeBytes_append, ← ih]
      rfl

/-- Consuming a source that gives something at once is consuming its bytes. -/
theorem consume_eq (demux : Demultiplexer D) {source : ChunkedSource}
    (hlimit : source.limit ≠ some 0) :
  demux.consume source =
    ((demux.consumeBytes source.rest).1, (demux.consumeBytes source.rest).2,
      { source with rest := [] })
  := by
  have hsize : 0 < Packet.size := by decide
  obtain ⟨hreads, hdry⟩ := ChunkedSource.readAll_eq hsize hlimit
  rw [← hdry, ← hreads, ← consumeReads_eq]
  rfl

/-! ### Bindings -/

/-- The demultiplexers that come about by the operations on demultiplexers. -/
inductive Reachable : Demultiplexer D → Prop
  | new (input : UInt8) : Reachable { input }
  | bind {demux after : Demultiplexer D} (kind : D.Kind) (system : SystemId)
      (component : ComponentId) (channel : ChannelId) :
      Reachable demux → demux.bind kind system component channel = .ok after →
      Reachable after
  | consume {demux : Demultiplexer D} (source : ChunkedSource) :
      Reachable demux → Reachable (demux.consume source).2.1

/-- The message type of every binding is known by its descriptor. -/
def Consistent (demux : Demultiplexer D) : Prop :=
  ∀ key binding, demux.binding? key = some binding →
    demux.known.find? (D.format binding.kind).id = some (D.format binding.kind).descriptor

/-- Binding a routing key adds the binding and the descriptor, which is not known yet or the
one that is known. -/
theorem bind_eq_ok {demux after : Demultiplexer D} {kind : D.Kind} {system : SystemId}
    {component : ComponentId} {channel : ChannelId}
    (h : demux.bind kind system component channel = .ok after) :
  (∀ descriptor, demux.known.find? (D.format kind).id = some descriptor →
      descriptor = (D.format kind).descriptor) ∧
    after = { demux with
      known := demux.known.insert (D.format kind).descriptor
      bindings := (⟨(D.format kind).id, system, component⟩, ⟨kind, channel⟩) ::
        demux.bindings }
  := by
  rw [Demultiplexer.bind] at h
  split at h
  · cases h
  · rename_i hfault
    cases h
    constructor
    · intro descriptor hdescriptor
      by_contra hne
      have hconflicts : demux.conflicts (D.format kind).descriptor = true := by
        have hid : (D.format kind).descriptor.id = (D.format kind).id := rfl
        rw [conflicts, hid, hdescriptor]
        apply decide_eq_true hne
      rw [bindFault?, if_pos hconflicts] at hfault
      cases hfault
    · rfl

theorem Consistent.bind {demux after : Demultiplexer D} {kind : D.Kind} {system : SystemId}
    {component : ComponentId} {channel : ChannelId} (consistent : demux.Consistent)
    (h : demux.bind kind system component channel = .ok after) :
  after.Consistent
  := by
  obtain ⟨hknown, rfl⟩ := bind_eq_ok h
  intro key binding hbinding
  rw [binding?, List.lookup_cons] at hbinding
  split at hbinding
  · cases hbinding
    apply DescriptorTable.find?_insert_self
  · have hbefore := consistent key binding hbinding
    by_cases hid : (D.format binding.kind).id = (D.format kind).id
    · -- The descriptor that is entered is the one that was known.
      have hsame := hknown _ (hid ▸ hbefore)
      change DescriptorTable.find? (demux.known.insert _) _ = _
      rw [hsame, hid]
      apply DescriptorTable.find?_insert_self
    · change DescriptorTable.find? (demux.known.insert _) _ = _
      rw [DescriptorTable.find?_insert_of_ne demux.known hid]
      apply hbefore

/-- In every demultiplexer that came about by its operations, the message types of the
bindings are known. -/
theorem Reachable.consistent {demux : Demultiplexer D} (reachable : demux.Reachable) :
  demux.Consistent
  := by
  induction reachable with
  | new input =>
      intro key binding h
      cases h
  | bind kind system component channel _ h ih => apply ih.bind h
  | @consume demux source _ ih =>
      intro key binding h
      change (demux.consumeReads (source.readAll Packet.size).1).2.binding? key = _ at h
      change (demux.consumeReads (source.readAll Packet.size).1).2.known.find? _ = _
      rw [consumeReads_eq, consumeBytes_eq] at h ⊢
      apply ih key binding h

end Demultiplexer

end FlightBus

import FlightBus.Proofs.Bus.Accounting
import FlightBus.Proofs.Bus.EndToEnd

/-!
# Boundaries of reads and calls

A demultiplexer consumes one source after the other, each in a call of its own.  It takes the
bytes of a source in reads into a buffer of the size of a packet, which it keeps from read to
read and from call to call, and of which it consumes as many bytes as the read has given.

So a byte string may be cut at the ends of the buffer, where a source gives no more at once,
and between two sources.  None of these boundaries makes a difference: the demultiplexer does
what it does when it consumes the byte string as one source, and every source is dry in the
end.
-/

namespace FlightBus

/-! ### Reads into a buffer -/

namespace ChunkedSource

theorem length_read (source : ChunkedSource) (size : Nat) :
  (source.read size).1.length = source.readSize size
  := by
  apply List.length_take_of_le
  apply readSize_le

theorem readSize_le_size (source : ChunkedSource) (size : Nat) :
  source.readSize size ≤ size
  := by
  unfold readSize
  split <;> omega

/-- The number of bytes that a read into a buffer gives. -/
theorem fst_readInto (source : ChunkedSource) (buffer : List UInt8) :
  (source.readInto buffer).1 = source.readSize buffer.length
  := by
  apply length_read

/-- The bytes that a read has given are the first in the buffer, whatever was there. -/
theorem take_readInto (source : ChunkedSource) (buffer : List UInt8) :
  (source.readInto buffer).2.1.take (source.readInto buffer).1 =
    (source.read buffer.length).1
  := by
  change (buffer.take 0 ++ (source.read buffer.length).1 ++ _).take
    (source.read buffer.length).1.length = _
  rw [List.take_zero, List.nil_append, List.take_left]

/-- A read into a buffer does not change its size. -/
theorem length_readInto (source : ChunkedSource) (buffer : List UInt8) :
  (source.readInto buffer).2.1.length = buffer.length
  := by
  apply length_overwrite
  rw [Nat.zero_add]
  apply Nat.le_trans (Nat.le_of_eq (source.length_read buffer.length))
  apply readSize_le_size

theorem read_of_dry {source : ChunkedSource} {size : Nat} (h : source.readSize size = 0) :
  source.read size = ([], source)
  := by
  rw [read, h]
  rfl

theorem readAll_of_dry {source : ChunkedSource} {size : Nat} (h : source.readSize size = 0) :
  source.readAll size = ([], source)
  := by
  rw [readAll, if_pos h]

theorem readAll_of_not_dry {source : ChunkedSource} {size : Nat}
    (h : source.readSize size ≠ 0) :
  source.readAll size =
    ((source.read size).1 :: ((source.read size).2.readAll size).1,
      ((source.read size).2.readAll size).2)
  := by
  conv =>
    lhs
    rw [readAll, if_neg h]

end ChunkedSource

namespace Demultiplexer

variable {D : Dialect}

/-! ### Consuming through a buffer -/

/-- What comes of consuming sources of type `σ` through a buffer. -/
structure Consumption (D : Dialect) (σ : Type) where
  /-- The actions, in the order of the stream. -/
  actions : List (Action D)
  /-- The frames that were found, each with the binding of its routing key. -/
  frames : List (RoutedFrame D)
  /-- The demultiplexer after that. -/
  demux : Demultiplexer D
  /-- The contents of the buffer after that. -/
  scratch : List UInt8
  /-- The sources after that. -/
  sources : σ

/-- Consumes what a source gives until it is dry.  Each read goes into the buffer, and as many
bytes from the start of the buffer as were read are consumed. -/
def consumeThrough (demux : Demultiplexer D) (scratch : List UInt8) (source : ChunkedSource) :
    Consumption D ChunkedSource :=
  let read := source.readInto scratch
  if read.1 = 0 then
    ⟨[], [], demux, read.2.1, read.2.2⟩
  else
    let bytes := read.2.1.take read.1
    let others := consumeThrough (demux.consumeBytes bytes).2 read.2.1 read.2.2
    { others with
      actions := (demux.consumeBytes bytes).1 ++ others.actions
      frames := demux.routed bytes ++ others.frames }
termination_by source.rest.length
decreasing_by
  rename_i h
  apply @ChunkedSource.length_rest_read source scratch.length
  rw [← ChunkedSource.fst_readInto]
  exact h

/-- Consumes sources one after the other, all through one buffer. -/
def consumeAllThrough (demux : Demultiplexer D) (scratch : List UInt8) :
    List ChunkedSource → Consumption D (List ChunkedSource)
  | [] => ⟨[], [], demux, scratch, []⟩
  | source :: sources =>
      let first := demux.consumeThrough scratch source
      let others := first.demux.consumeAllThrough first.scratch sources
      ⟨first.actions ++ others.actions, first.frames ++ others.frames, others.demux,
        others.scratch, first.sources :: others.sources⟩

/-- Consumes sources one after the other, each in a call of its own. -/
def consumeAll (demux : Demultiplexer D) :
    List ChunkedSource → List (Action D) × Demultiplexer D × List ChunkedSource
  | [] => ([], demux, [])
  | source :: sources =>
      let (first, demux, source) := demux.consume source
      let (others, demux, sources) := demux.consumeAll sources
      (first ++ others, demux, source :: sources)

/-! ### No boundary matters -/

/-- The frames in a byte string are found when it is consumed in two pieces. -/
theorem routed_append (demux : Demultiplexer D) (bytes more : List UInt8) :
  demux.routed (bytes ++ more) =
    demux.routed bytes ++ (demux.consumeBytes bytes).2.routed more
  := by
  rw [consumeBytes_eq]
  simp only [routed, Deframer.pushAll_append, List.filterMap_append, List.map_append]
  rfl

theorem consume_of_dry (demux : Demultiplexer D) {source : ChunkedSource}
    (h : source.readSize Packet.size = 0) :
  demux.consume source = ([], demux, source)
  := by
  rw [consume, ChunkedSource.readAll_of_dry h]
  rfl

theorem consume_of_not_dry (demux : Demultiplexer D) {source : ChunkedSource}
    (h : source.readSize Packet.size ≠ 0) :
  let read := source.read Packet.size
  demux.consume source =
    ((demux.consumeBytes read.1).1 ++ ((demux.consumeBytes read.1).2.consume read.2).1,
      ((demux.consumeBytes read.1).2.consume read.2).2)
  := by
  intro read
  rw [consume, ChunkedSource.readAll_of_not_dry h]
  rfl

/-- Consuming a source through a buffer of the size of a packet is consuming the source,
whatever is in the buffer. -/
theorem consumeThrough_eq (demux : Demultiplexer D) {scratch : List UInt8}
    (hscratch : scratch.length = Packet.size) (source : ChunkedSource) :
  let result := demux.consumeThrough scratch source
  result.actions = (demux.consume source).1 ∧
    result.frames = demux.routed (source.readAll Packet.size).1.flatten ∧
    result.demux = (demux.consume source).2.1 ∧
    result.sources = (demux.consume source).2.2 ∧
    result.scratch.length = Packet.size
  := by
  induction hlength : source.rest.length using Nat.strongRecOn
    generalizing demux scratch source with
  | ind length ih =>
      have hcount := source.fst_readInto scratch
      have hbytes := source.take_readInto scratch
      have hkept := source.length_readInto scratch
      have hafter : (source.readInto scratch).2.2 = (source.read scratch.length).2 := rfl
      rw [hscratch] at hcount hbytes hkept hafter
      rw [consumeThrough]
      dsimp only
      rw [hcount]
      split
      · rename_i hdry
        rw [consume_of_dry demux hdry, ChunkedSource.readAll_of_dry hdry, hafter,
          ChunkedSource.read_of_dry hdry]
        exact ⟨rfl, rfl, rfl, rfl, hkept⟩
      · rename_i hnot
        rw [consume_of_not_dry demux hnot, ChunkedSource.readAll_of_not_dry hnot,
          List.flatten_cons, routed_append, hcount.symm, hbytes, hafter]
        have hless := ChunkedSource.length_rest_read hnot
        obtain ⟨hactions, hframes, hdemux, hsources, hsize⟩ :=
          ih _ (hlength ▸ hless) (demux.consumeBytes (source.read Packet.size).1).2 hkept _ rfl
        refine ⟨?_, ?_, hdemux, hsources, hsize⟩
        · rw [hactions]
        · rw [hframes]

/-- Consuming sources through one buffer is consuming each of them in a call of its own. -/
theorem consumeAllThrough_eq_consumeAll (demux : Demultiplexer D) {scratch : List UInt8}
    (hscratch : scratch.length = Packet.size) (sources : List ChunkedSource) :
  let result := demux.consumeAllThrough scratch sources
  (result.actions, result.demux, result.sources) = demux.consumeAll sources
  := by
  induction sources generalizing demux scratch with
  | nil => rfl
  | cons source sources ih =>
      obtain ⟨hactions, -, hdemux, hsource, hkept⟩ := demux.consumeThrough_eq hscratch source
      have hothers := ih (demux.consumeThrough scratch source).demux hkept
      have hconsume : demux.consume source =
          ((demux.consumeThrough scratch source).actions,
            (demux.consumeThrough scratch source).demux,
            (demux.consumeThrough scratch source).sources) := by
        rw [hactions, hdemux, hsource]
      rw [consumeAll, hconsume]
      dsimp only at hothers ⊢
      rw [← hothers]
      rfl

/-- Consuming a source that gives something at once is consuming its bytes, and leaves it
dry. -/
theorem consumeThrough_eq_consumeBytes (demux : Demultiplexer D) {scratch : List UInt8}
    (hscratch : scratch.length = Packet.size) {source : ChunkedSource}
    (hlimit : source.limit ≠ some 0) :
  let result := demux.consumeThrough scratch source
  result.actions = (demux.consumeBytes source.rest).1 ∧
    result.frames = demux.routed source.rest ∧
    result.demux = (demux.consumeBytes source.rest).2 ∧
    result.sources = { source with rest := [] } ∧ result.scratch.length = Packet.size
  := by
  have hresult := demux.consumeThrough_eq hscratch source
  have hsize : 0 < Packet.size := by decide
  rw [demux.consume_eq hlimit, (ChunkedSource.readAll_eq hsize hlimit).1] at hresult
  apply hresult

/-- Consuming sources that give something at once is consuming all of their bytes, and leaves
them dry. -/
theorem consumeAllThrough_eq (demux : Demultiplexer D) {scratch : List UInt8}
    (hscratch : scratch.length = Packet.size) {sources : List ChunkedSource}
    (h : ∀ source ∈ sources, source.limit ≠ some 0) :
  let result := demux.consumeAllThrough scratch sources
  let bytes := sources.flatMap ChunkedSource.rest
  result.actions = (demux.consumeBytes bytes).1 ∧ result.frames = demux.routed bytes ∧
    result.demux = (demux.consumeBytes bytes).2 ∧
    result.sources = sources.map ({ · with rest := [] })
  := by
  induction sources generalizing demux scratch with
  | nil => exact ⟨rfl, rfl, rfl, rfl⟩
  | cons source sources ih =>
      obtain ⟨hlimit, hothers⟩ := List.forall_mem_cons.mp h
      obtain ⟨hactions, hframes, hdemux, hdry, hkept⟩ :=
        demux.consumeThrough_eq_consumeBytes hscratch hlimit
      obtain ⟨hmore, hfound, hafter, hrest⟩ :=
        ih (demux.consumeThrough scratch source).demux hkept hothers
      simp only [List.flatMap_cons]
      rw [consumeBytes_append, routed_append, ← hactions, ← hframes, ← hdemux, ← hmore,
        ← hfound, ← hafter, List.map_cons, ← hdry, ← hrest]
      exact ⟨rfl, rfl, rfl, rfl⟩

/-- However a byte string is cut into sources, and in whatever pieces these give their bytes,
a demultiplexer that consumes them one after the other does what it does when it consumes the
byte string as one source: the actions, the frames with the bindings of their routing keys,
and the demultiplexer with its window and its numbers are the same, whatever was in the buffer
at first.  All of the sources are dry then.  On either side the buffer makes no difference to
the calls. -/
theorem consumeAllThrough_eq_consume (demux : Demultiplexer D) (scratch other : Packet)
    (sources : List ChunkedSource) (h : ∀ source ∈ sources, source.limit ≠ some 0) :
  let pieces := demux.consumeAllThrough scratch.bytes sources
  let joined : ChunkedSource := ⟨sources.flatMap ChunkedSource.rest, none⟩
  let whole := demux.consumeThrough other.bytes joined
  pieces.actions = whole.actions ∧ pieces.frames = whole.frames ∧
    pieces.demux = whole.demux ∧ pieces.sources.length = sources.length ∧
    (∀ source ∈ pieces.sources, source.rest = []) ∧ whole.sources.rest = [] ∧
    (pieces.actions, pieces.demux, pieces.sources) = demux.consumeAll sources ∧
    (whole.actions, whole.demux, whole.sources) = demux.consume joined
  := by
  intro pieces joined whole
  have hnone : joined.limit ≠ some 0 := by
    intro h
    cases h
  obtain ⟨hactions, hframes, hdemux, hdry⟩ :=
    demux.consumeAllThrough_eq scratch.length_eq h
  obtain ⟨hwhole, hfound, hafter, hrest, -⟩ :=
    demux.consumeThrough_eq_consumeBytes other.length_eq hnone
  refine ⟨hactions.trans hwhole.symm, hframes.trans hfound.symm, hdemux.trans hafter.symm,
    ?_, ?_, ?_, demux.consumeAllThrough_eq_consumeAll scratch.length_eq sources, ?_⟩
  · rw [hdry, List.length_map]
  · rw [hdry]
    intro source hsource
    obtain ⟨_, -, rfl⟩ := List.mem_map.mp hsource
    rfl
  · rw [hrest]
  · rw [demux.consume_eq hnone, ← hwhole, ← hafter, ← hrest]

/-- A link test whose frame is cut in two, of which the first piece comes byte by byte, is
delivered once. -/
theorem consumeAllThrough_eq_consume_linkTest :
  let test : flight.Message := ⟨.linkTest, ⟨7, Single.zero⟩⟩
  let stream := Traffic.stream 0 [(⟨⟨0⟩, ⟨1⟩, ⟨1⟩⟩, test)]
  let sources : List ChunkedSource := [⟨stream.take 7, some 1⟩, ⟨stream.drop 7, some 3⟩]
  ∃ demux : Demultiplexer flight,
    ({ input := 0 } : Demultiplexer flight).bind .linkTest ⟨1⟩ ⟨1⟩ ⟨0⟩ = .ok demux ∧
      (∀ source ∈ sources, source.limit ≠ some 0) ∧
      (demux.consumeAllThrough Packet.blank.bytes sources).actions = [.deliver ⟨0⟩ test] ∧
      (demux.consumeAll sources).1 = [.deliver ⟨0⟩ test]
  := by
  intro test stream sources
  have hbind : ∃ demux : Demultiplexer flight,
      ({ input := 0 } : Demultiplexer flight).bind .linkTest ⟨1⟩ ⟨1⟩ ⟨0⟩ = .ok demux :=
    ⟨_, rfl⟩
  obtain ⟨demux, hdemux⟩ := hbind
  obtain ⟨-, hfields⟩ := bind_eq_ok hdemux
  have hlimits : ∀ source ∈ sources, source.limit ≠ some 0 := by
    simp [sources]
  have hstream : sources.flatMap ChunkedSource.rest = stream := by
    simp [sources]
  have consistent : demux.Consistent :=
    Reachable.consistent (.bind _ _ _ _ (.new 0) hdemux)
  have empty : demux.deframer.window = [] := by
    rw [hfields]
  have bound : Traffic.BoundIn demux (fun _ => ⟨0⟩) [(⟨⟨0⟩, ⟨1⟩, ⟨1⟩⟩, test)] := by
    rw [hfields]
    intro entry hmem
    rw [List.mem_singleton.mp hmem]
    exact ⟨flight.faithful_format .linkTest, rfl⟩
  obtain ⟨hactions, -, -, -, -, -, hcalls, hwhole⟩ :=
    demux.consumeAllThrough_eq_consume Packet.blank Packet.blank sources hlimits
  rw [hstream] at hactions hwhole
  rw [consume_eq demux (by simp), consumeBytes_stream 0 consistent empty bound] at hwhole
  have hdelivered := hactions.trans (congrArg Prod.fst hwhole)
  exact ⟨demux, hdemux, hlimits, hdelivered, (congrArg Prod.fst hcalls).symm.trans hdelivered⟩

end Demultiplexer

end FlightBus

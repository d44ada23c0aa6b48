import FlightBus.Wire.Field

/-!
# Sources of bytes

A source hands out a byte string in reads.  A read gives what is there, but no more than
the reader has room for and no more than the source gives at once; when it gives nothing,
the source is dry.
-/

namespace FlightBus

/-- A source of a byte string. -/
structure ChunkedSource where
  /-- The bytes that were not read. -/
  rest : List UInt8
  /-- The largest number of bytes that the source gives at once, if there is one. -/
  limit : Option Nat := none
deriving DecidableEq, Repr

namespace ChunkedSource

/-- What is said of a limit of zero, which no source can have. -/
def zeroLimitText : String := "chunk limit must be positive"

/-- The source of a byte string with a limit, if the limit is positive. -/
def withLimit? (bytes : List UInt8) (limit : Nat) : Option ChunkedSource :=
  if 0 < limit then some ⟨bytes, some limit⟩ else none

/-- The number of bytes of the next read into a buffer of the given size. -/
def readSize (source : ChunkedSource) (size : Nat) : Nat :=
  match source.limit with
  | none => min source.rest.length size
  | some limit => min (min source.rest.length size) limit

theorem readSize_le (source : ChunkedSource) (size : Nat) :
  source.readSize size ≤ source.rest.length
  := by
  unfold readSize
  split <;> omega

/-- The bytes of the next read into a buffer of the given size, and the source after it. -/
def read (source : ChunkedSource) (size : Nat) : List UInt8 × ChunkedSource :=
  let count := source.readSize size
  (source.rest.take count, { source with rest := source.rest.drop count })

/-- Reads into a buffer: the number of bytes read, the buffer with its start replaced by
them, and the source after the read. -/
def readInto (source : ChunkedSource) (buffer : List UInt8) :
    Nat × List UInt8 × ChunkedSource :=
  let (bytes, source) := source.read buffer.length
  (bytes.length, overwrite buffer 0 bytes, source)

/-- A read that gives something leaves fewer bytes. -/
theorem length_rest_read {source : ChunkedSource} {size : Nat}
    (h : source.readSize size ≠ 0) :
  (source.read size).2.rest.length < source.rest.length
  := by
  have := source.readSize_le size
  simp only [read, List.length_drop]
  omega

/-- The reads into buffers of the given size until the source is dry, and the source after
them. -/
def readAll (size : Nat) (source : ChunkedSource) : List (List UInt8) × ChunkedSource :=
  if source.readSize size = 0 then
    ([], source)
  else
    let (others, dry) := readAll size (source.read size).2
    ((source.read size).1 :: others, dry)
termination_by source.rest.length
decreasing_by
  rename_i h
  exact length_rest_read h

end ChunkedSource

end FlightBus

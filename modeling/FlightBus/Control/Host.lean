import FlightBus.Control.Autopilot

/-!
# The host of an autopilot

A host holds an autopilot by a handle, lends it ranges of bytes, and provides a cell for
the range of the output.  The handle, the data of a range and the cell may be null.
-/

namespace FlightBus

/-- A range of bytes that is lent. -/
structure HostRange where
  /-- The bytes from the start of the range on, and `none` for null. -/
  data : Option (List UInt8)
  /-- The number of bytes of the range. -/
  length : Nat
deriving DecidableEq, Repr

namespace HostRange

/-- The null range. -/
def null : HostRange := ⟨none, 0⟩

/-- The range of a byte string, which is null for the empty byte string. -/
def ofBytes (bytes : List UInt8) : HostRange :=
  if bytes.isEmpty then null else ⟨some bytes, bytes.length⟩

/-- The bytes of a range.  A null range has none, whatever its length. -/
def bytes (range : HostRange) : List UInt8 :=
  match range.data with
  | none => []
  | some data => data.take range.length

end HostRange

/-- The result of running a cycle for a host. -/
structure HostCycle where
  /-- Whether a cycle was run. -/
  ran : Bool
  /-- What the handle refers to. -/
  autopilot? : Option Autopilot
  /-- The contents of the cell. -/
  output : Option HostRange
  /-- The log records. -/
  records : List Record

namespace Host

/-- A new handle, which is null if the autopilot cannot be put together. -/
def create : Option Autopilot × List Record :=
  match Autopilot.assemble with
  | .ok (autopilot, records) => (some autopilot, records)
  | .error fault =>
      (none, [⟨.error, s!"failed to assemble flight software: {fault.message}"⟩])

/-- Runs a cycle on the bytes of a range and writes the range of the output into the cell.
Nothing is done if the handle or the cell is null. -/
def cycle (autopilot? : Option Autopilot) (input : HostRange) (output : Option HostRange) :
    HostCycle :=
  match autopilot?, output with
  | some autopilot, some _ =>
      let (produced, records, autopilot) := autopilot.cycle input.bytes
      ⟨true, some autopilot, some (HostRange.ofBytes produced), records⟩
  | _, _ =>
      ⟨false, autopilot?, output, [⟨.warn, "crater_step called with a null pointer"⟩]⟩

end Host

end FlightBus

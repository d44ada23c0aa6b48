import FlightBus.Frame.Search

/-!
# Deframers

A deframer finds the frames of a byte stream that arrives in pieces of any size.  It keeps
the bytes from the first undecided candidate on in a window and searches the window again
as bytes arrive.  The descriptors that are known are given with each call and may change
from call to call.
-/

namespace FlightBus

/-- The state of a deframer. -/
structure Deframer where
  /-- The bytes that are not decided. -/
  window : List UInt8 := []
  /-- The numbers of findings so far. -/
  counts : FindingCounts := {}
deriving DecidableEq, Repr

namespace Deframer

/-- Drops the bytes that are not decided. -/
def reset (deframer : Deframer) : Deframer :=
  { deframer with window := [] }

/-- Appends bytes to the window. -/
def append (deframer : Deframer) (bytes : List UInt8) : Deframer :=
  { deframer with window := deframer.window ++ bytes }

/-- Searches the window for the next frame.  The findings are the candidates rejected on
the way and, behind them, the frame if there is one. -/
def poll (lookup : Lookup) (deframer : Deframer) : List Finding × Deframer :=
  let result := search lookup deframer.window
  (result.findings, ⟨result.rest, deframer.counts.addAll result.findings⟩)

/-- Takes a byte and searches for the next frame. -/
def push (lookup : Lookup) (byte : UInt8) (deframer : Deframer) :
    List Finding × Deframer :=
  (deframer.append [byte]).poll lookup

/-- Searches the window for frames until none is found. -/
def drain (lookup : Lookup) (deframer : Deframer) : List Finding × Deframer :=
  let (findings, rest) := FlightBus.drain lookup deframer.window
  (findings, ⟨rest, deframer.counts.addAll findings⟩)

/-- Takes bytes one by one, and after each searches for frames until none is found. -/
def pushAll (lookup : Lookup) : List UInt8 → Deframer → List Finding × Deframer
  | [], deframer => ([], deframer)
  | byte :: bytes, deframer =>
      let (first, deframer) := (deframer.append [byte]).drain lookup
      let (others, deframer) := pushAll lookup bytes deframer
      (first ++ others, deframer)

end Deframer

end FlightBus

import FlightBus.Frame.Candidate

/-!
# Searching a byte string for frames

A byte string is searched from left to right.  Bytes that are no marker are passed over.
Of a rejected candidate the marker alone is passed over, since a frame may start at any of
the bytes behind it.  A frame is passed over as a whole.  The search stops at a candidate
that cannot be decided yet.

`search` stops at the first frame as well, and `drain` repeats it until no frame is found.
`scan` is the same search written as a single pass over the bytes.
-/

namespace FlightBus

/-- What a search comes across. -/
inductive Finding
  /-- A candidate that was rejected. -/
  | rejected (cause : Rejection)
  /-- A frame. -/
  | frame (frame : Frame)
deriving DecidableEq, Repr

/-- The frame of a finding, if it is one. -/
def Finding.frame? : Finding → Option Frame
  | rejected _ => none
  | frame f => some f

/-- The log record of a finding, if it is reported. -/
def Finding.record? : Finding → Option Record
  | rejected cause => some cause.record
  | frame _ => none

/-! ### The next frame -/

/-- The result of a search for the next frame. -/
structure Search where
  /-- The candidates that were rejected on the way. -/
  rejections : List Rejection
  /-- The frame found, if there is one. -/
  found : Option Frame
  /-- The bytes that are left. -/
  rest : List UInt8
deriving DecidableEq, Repr

/-- The findings of a search, from left to right. -/
def Search.findings (result : Search) : List Finding :=
  result.rejections.map .rejected ++ (result.found.map .frame).toList

/-- Searches a byte string for its first frame.  If there is none, what is left starts with
the candidate that cannot be decided. -/
def search (lookup : Lookup) : List UInt8 → Search
  | [] => ⟨[], none, []⟩
  | b :: bytes =>
    match Version.ofMarker? b with
    | none => search lookup bytes
    | some version =>
      match examine lookup version (b :: bytes) with
      | .incomplete => ⟨[], none, b :: bytes⟩
      | .rejected cause =>
          let result := search lookup bytes
          ⟨cause :: result.rejections, result.found, result.rest⟩
      | .complete frame length => ⟨[], some frame, bytes.drop (length - 1)⟩

/-- A search leaves no more bytes than it was given, and fewer if it finds a frame. -/
theorem length_rest_search (lookup : Lookup) (bytes : List UInt8) :
  (search lookup bytes).rest.length + (if (search lookup bytes).found.isSome then 1 else 0)
    ≤ bytes.length
  := by
  induction bytes with
  | nil => simp [search]
  | cons b bytes ih =>
      rw [List.length_cons, search]
      cases Version.ofMarker? b with
      | none => exact Nat.le_succ_of_le ih
      | some version =>
          cases hverdict : examine lookup version (b :: bytes) with
          | incomplete => simp [hverdict]
          | rejected cause =>
              simp only [hverdict]
              exact Nat.le_succ_of_le ih
          | complete frame length => simp [hverdict]

/-! ### All frames -/

/-- Searches a byte string for its frames until none is found, and gives all findings from
left to right and the bytes that are left. -/
def drain (lookup : Lookup) (bytes : List UInt8) : List Finding × List UInt8 :=
  let result := search lookup bytes
  if result.found.isSome then
    let (findings, rest) := drain lookup result.rest
    (result.findings ++ findings, rest)
  else
    (result.findings, result.rest)
termination_by bytes.length
decreasing_by
  rename_i hfound
  have hlength := length_rest_search lookup bytes
  rw [if_pos hfound] at hlength
  omega

/-- Goes through a byte string once.  The number says how many bytes belong to the frame
that was found last and are passed over. -/
def scanFrom (lookup : Lookup) : Nat → List UInt8 → List Finding × List UInt8
  | _, [] => ([], [])
  | skip + 1, _ :: bytes => scanFrom lookup skip bytes
  | 0, b :: bytes =>
    match Version.ofMarker? b with
    | none => scanFrom lookup 0 bytes
    | some version =>
      match examine lookup version (b :: bytes) with
      | .incomplete => ([], b :: bytes)
      | .rejected cause =>
          let (findings, rest) := scanFrom lookup 0 bytes
          (.rejected cause :: findings, rest)
      | .complete frame length =>
          let (findings, rest) := scanFrom lookup (length - 1) bytes
          (.frame frame :: findings, rest)

/-- Goes through a byte string once, and gives all findings from left to right and the
bytes that are left. -/
def scan (lookup : Lookup) (bytes : List UInt8) : List Finding × List UInt8 :=
  scanFrom lookup 0 bytes

/-! ### Counting -/

/-- The numbers of findings.  A counter that exceeds 32 bits starts again at zero. -/
structure FindingCounts where
  /-- The frames. -/
  frames : UInt32 := 0
  /-- The candidates rejected for their checksum. -/
  badChecksum : UInt32 := 0
  /-- The candidates rejected for their message type. -/
  unknown : UInt32 := 0
  /-- The candidates rejected for their flags or their length. -/
  malformed : UInt32 := 0
deriving DecidableEq, Repr

namespace FindingCounts

/-- Counts a finding. -/
def add (counts : FindingCounts) : Finding → FindingCounts
  | .frame _ => { counts with frames := counts.frames + 1 }
  | .rejected (.checksumMismatch ..) =>
      { counts with badChecksum := counts.badChecksum + 1 }
  | .rejected (.unknownMessage _) => { counts with unknown := counts.unknown + 1 }
  | .rejected (.unsupportedFlags _) => { counts with malformed := counts.malformed + 1 }
  | .rejected (.badLength ..) => { counts with malformed := counts.malformed + 1 }

/-- Counts findings. -/
def addAll (counts : FindingCounts) (findings : List Finding) : FindingCounts :=
  findings.foldl add counts

end FindingCounts

end FlightBus

import FlightBus.Frame.Search
import FlightBus.Proofs.Frame.Candidate

/-!
# Steps of a search

A search goes through a byte string in steps: it passes over a byte that is no marker, over
the marker of a rejected candidate, or over a frame.  It is stuck at the end of the bytes
and at a candidate that cannot be decided.  A step depends on the bytes that it decides on
alone, so it is the same step when more bytes follow.

Whatever is said of `search`, `drain` and `scan` below goes by induction on the steps.  In
particular `drain`, which repeats `search`, finds what the single pass of `scan` finds, and
bytes that arrive in two pieces are searched as if they had arrived in one.
-/

namespace FlightBus

/-! ### Steps -/

/-- A step of a search from a byte string to another, with what it comes across, if that is
a finding. -/
inductive SearchStep (lookup : Lookup) : List UInt8 → Option Finding → List UInt8 → Prop
  /-- The first byte is no marker. -/
  | noise {b : UInt8} {bytes : List UInt8} (marker : Version.ofMarker? b = none) :
      SearchStep lookup (b :: bytes) none bytes
  /-- The candidate is rejected. -/
  | rejected {b : UInt8} {bytes : List UInt8} {version : Version} {cause : Rejection}
      (marker : Version.ofMarker? b = some version)
      (verdict : examine lookup version (b :: bytes) = .rejected cause) :
      SearchStep lookup (b :: bytes) (some (.rejected cause)) bytes
  /-- The candidate is a frame. -/
  | found {b : UInt8} {bytes : List UInt8} {version : Version} {frame : Frame} {length : Nat}
      (marker : Version.ofMarker? b = some version)
      (verdict : examine lookup version (b :: bytes) = .complete frame length) :
      SearchStep lookup (b :: bytes) (some (.frame frame)) (bytes.drop (length - 1))

/-- A search of the byte string is stuck: there are no bytes, or those that there are do not
suffice to decide the candidate that they start. -/
inductive Stuck (lookup : Lookup) : List UInt8 → Prop
  | nil : Stuck lookup []
  | incomplete {b : UInt8} {bytes : List UInt8} {version : Version}
      (marker : Version.ofMarker? b = some version)
      (verdict : examine lookup version (b :: bytes) = .incomplete) :
      Stuck lookup (b :: bytes)

/-- A search is stuck or takes a step. -/
theorem stuck_or_step (lookup : Lookup) (bytes : List UInt8) :
  Stuck lookup bytes ∨ ∃ finding rest, SearchStep lookup bytes finding rest
  := by
  cases bytes with
  | nil =>
      left
      constructor
  | cons b bytes =>
      cases hmarker : Version.ofMarker? b with
      | none =>
          right
          use none, bytes
          apply SearchStep.noise hmarker
      | some version =>
          cases hverdict : examine lookup version (b :: bytes) with
          | incomplete =>
              left
              apply Stuck.incomplete hmarker hverdict
          | rejected cause =>
              right
              use some (.rejected cause), bytes
              apply SearchStep.rejected hmarker hverdict
          | complete frame length =>
              right
              use some (.frame frame), bytes.drop (length - 1)
              apply SearchStep.found hmarker hverdict

/-- A search stays stuck when more message types are known. -/
theorem Stuck.of_known {lookup more : Lookup} {bytes : List UInt8} (stuck : Stuck lookup bytes)
    (known : ∀ id descriptor, lookup id = some descriptor → more id = some descriptor) :
  Stuck more bytes
  := by
  cases stuck with
  | nil => apply Stuck.nil
  | incomplete marker verdict =>
      apply Stuck.incomplete marker
      apply examine_eq_incomplete_of_known known verdict

/-- A search is not stuck with the bytes of a packet. -/
theorem Stuck.length_lt {lookup : Lookup} {bytes : List UInt8} (stuck : Stuck lookup bytes) :
  bytes.length < Packet.size
  := by
  cases stuck with
  | nil => decide
  | incomplete marker verdict => apply length_lt_of_incomplete verdict

/-- A frame is no longer than the candidate that it is found in. -/
theorem length_le_of_complete {lookup : Lookup} {version : Version}
    {candidate : List UInt8} {frame : Frame} {length : Nat}
    (h : examine lookup version candidate = .complete frame length) :
  length ≤ candidate.length
  := by
  obtain ⟨header, body, descriptor, -, -, -, -, hlength, -, -, rfl⟩ :=
    examine_eq_complete_iff.mp h
  apply hlength

namespace SearchStep

variable {lookup : Lookup} {bytes rest : List UInt8} {finding : Option Finding}

/-- A step leaves fewer bytes. -/
theorem length_lt (step : SearchStep lookup bytes finding rest) :
  rest.length < bytes.length
  := by
  cases step with
  | noise marker => apply Nat.lt_succ_self
  | rejected marker verdict => apply Nat.lt_succ_self
  | found marker verdict =>
      rw [List.length_drop, List.length_cons]
      omega

/-- What a step leaves is the end of the bytes. -/
theorem suffix (step : SearchStep lookup bytes finding rest) :
  rest <:+ bytes
  := by
  cases step with
  | noise marker => apply List.suffix_cons
  | rejected marker verdict => apply List.suffix_cons
  | found marker verdict =>
      apply (List.drop_suffix _ _).trans
      apply List.suffix_cons

/-- A step is the same when more bytes follow. -/
theorem append (more : List UInt8) (step : SearchStep lookup bytes finding rest) :
  SearchStep lookup (bytes ++ more) finding (rest ++ more)
  := by
  cases step with
  | noise marker => apply noise marker
  | @rejected b _ version cause marker verdict =>
      have hsame : examine lookup version (b :: rest ++ more) = .rejected cause := by
        rw [examine_append more (by rw [verdict]; simp), verdict]
      apply rejected marker hsame
  | @found b bytes version frame length marker verdict =>
      have hsame : examine lookup version (b :: bytes ++ more) = .complete frame length := by
        rw [examine_append more (by rw [verdict]; simp), verdict]
      have hlength : length - 1 ≤ bytes.length := by
        have := length_le_of_complete verdict
        rw [List.length_cons] at this
        omega
      rw [← List.drop_append_of_le_length hlength]
      apply SearchStep.found marker hsame

/-- From a byte string there is no more than one step. -/
theorem unique {finding' : Option Finding} {rest' : List UInt8}
    (step : SearchStep lookup bytes finding rest)
    (other : SearchStep lookup bytes finding' rest') :
  finding = finding' ∧ rest = rest'
  := by
  cases step with
  | noise marker =>
      cases other with
      | noise => exact ⟨rfl, rfl⟩
      | rejected marker' => cases marker.symm.trans marker'
      | found marker' => cases marker.symm.trans marker'
  | rejected marker verdict =>
      cases other with
      | noise marker' => cases marker.symm.trans marker'
      | rejected marker' verdict' =>
          cases marker.symm.trans marker'
          cases verdict.symm.trans verdict'
          exact ⟨rfl, rfl⟩
      | found marker' verdict' =>
          cases marker.symm.trans marker'
          cases verdict.symm.trans verdict'
  | found marker verdict =>
      cases other with
      | noise marker' => cases marker.symm.trans marker'
      | rejected marker' verdict' =>
          cases marker.symm.trans marker'
          cases verdict.symm.trans verdict'
      | found marker' verdict' =>
          cases marker.symm.trans marker'
          cases verdict.symm.trans verdict'
          exact ⟨rfl, rfl⟩

end SearchStep

/-- A property of byte strings holds of all of them if it holds where a search is stuck and
of every byte string from which a step leads to one of which it holds. -/
theorem search_induction (lookup : Lookup) {P : List UInt8 → Prop}
    (stuck : ∀ bytes, Stuck lookup bytes → P bytes)
    (step : ∀ bytes finding rest, SearchStep lookup bytes finding rest → P rest → P bytes)
    (bytes : List UInt8) :
  P bytes
  := by
  induction hlength : bytes.length using Nat.strongRecOn generalizing bytes with
  | ind n ih =>
      rcases stuck_or_step lookup bytes with hstuck | ⟨finding, rest, hstep⟩
      · apply stuck bytes hstuck
      · apply step bytes finding rest hstep
        apply ih rest.length (hlength ▸ hstep.length_lt) rest rfl

/-! ### The next frame -/

/-- The result of a search that comes across something, if it does, and leaves some bytes.
Only a frame ends the search. -/
def Search.proceed (lookup : Lookup) : Option Finding → List UInt8 → Search
  | none, rest => search lookup rest
  | some (.rejected cause), rest =>
      { search lookup rest with rejections := cause :: (search lookup rest).rejections }
  | some (.frame frame), rest => ⟨[], some frame, rest⟩

theorem SearchStep.search_eq {lookup : Lookup} {bytes rest : List UInt8}
    {finding : Option Finding} (step : SearchStep lookup bytes finding rest) :
  search lookup bytes = Search.proceed lookup finding rest
  := by
  cases step with
  | noise marker => simp only [search, marker, Search.proceed]
  | rejected marker verdict => simp only [search, marker, verdict, Search.proceed]
  | found marker verdict => simp only [search, marker, verdict, Search.proceed]

theorem Stuck.search_eq {lookup : Lookup} {bytes : List UInt8} (stuck : Stuck lookup bytes) :
  search lookup bytes = ⟨[], none, bytes⟩
  := by
  cases stuck with
  | nil => rfl
  | incomplete marker verdict => simp only [search, marker, verdict]

/-- The frames among the findings of a search. -/
theorem filterMap_frame?_findings (result : Search) :
  result.findings.filterMap Finding.frame? = result.found.toList
  := by
  have hrejections : (result.rejections.map Finding.rejected).filterMap Finding.frame? = [] := by
    rw [List.filterMap_map]
    apply List.filterMap_eq_nil_iff.mpr
    intro cause _
    rfl
  rw [Search.findings, List.filterMap_append, hrejections]
  cases result.found with
  | none => rfl
  | some frame => rfl

/-- What a search leaves is the end of the bytes. -/
theorem search_suffix (lookup : Lookup) (bytes : List UInt8) :
  (search lookup bytes).rest <:+ bytes
  := by
  induction bytes using search_induction lookup with
  | stuck bytes stuck =>
      simp only [stuck.search_eq, List.suffix_refl]
  | step bytes finding rest step ih =>
      rw [step.search_eq]
      match finding with
      | none => apply ih.trans step.suffix
      | some (.rejected cause) => apply ih.trans step.suffix
      | some (.frame frame) => apply step.suffix

/-! ### All frames -/

theorem drain_of_found {lookup : Lookup} {bytes : List UInt8} {frame : Frame}
    (h : (search lookup bytes).found = some frame) :
  drain lookup bytes =
    ((search lookup bytes).findings ++ (drain lookup (search lookup bytes).rest).1,
      (drain lookup (search lookup bytes).rest).2)
  := by
  rw [drain, h]
  rfl

/-- A search that finds no frame leaves nothing to find. -/
theorem drain_of_not_found {lookup : Lookup} {bytes : List UInt8}
    (h : (search lookup bytes).found = none) :
  drain lookup bytes = ((search lookup bytes).findings, (search lookup bytes).rest)
  := by
  rw [drain, h]
  rfl

theorem Stuck.drain_eq {lookup : Lookup} {bytes : List UInt8} (stuck : Stuck lookup bytes) :
  drain lookup bytes = ([], bytes)
  := by
  rw [drain, stuck.search_eq]
  rfl

theorem SearchStep.drain_eq {lookup : Lookup} {bytes rest : List UInt8}
    {finding : Option Finding} (step : SearchStep lookup bytes finding rest) :
  drain lookup bytes = (finding.toList ++ (drain lookup rest).1, (drain lookup rest).2)
  := by
  have hsearch := step.search_eq
  match finding with
  | none =>
      rw [drain, hsearch, Search.proceed, ← drain]
      rfl
  | some (.rejected cause) =>
      cases hfound : (search lookup rest).found with
      | none =>
          have hnone : (search lookup bytes).found = none := by
            rw [hsearch]
            apply hfound
          rw [drain_of_not_found hnone, drain_of_not_found hfound, hsearch]
          rfl
      | some frame =>
          have hsome : (search lookup bytes).found = some frame := by
            rw [hsearch]
            apply hfound
          rw [drain_of_found hsome, drain_of_found hfound, hsearch]
          rfl
  | some (.frame frame) =>
      have hsome : (search lookup bytes).found = some frame := by
        rw [hsearch]
        rfl
      rw [drain_of_found hsome, hsearch]
      rfl

/-- When no frame is left to find, the search is stuck. -/
theorem stuck_drain (lookup : Lookup) (bytes : List UInt8) :
  Stuck lookup (drain lookup bytes).2
  := by
  induction bytes using search_induction lookup with
  | stuck bytes stuck =>
      rw [stuck.drain_eq]
      apply stuck
  | step bytes finding rest step ih =>
      rw [step.drain_eq]
      apply ih

/-- What is found in a byte string is what a search for one frame finds, and what is found
in the bytes that it leaves. -/
theorem drain_eq_search (lookup : Lookup) (bytes : List UInt8) :
  drain lookup bytes =
    ((search lookup bytes).findings ++ (drain lookup (search lookup bytes).rest).1,
      (drain lookup (search lookup bytes).rest).2)
  := by
  cases hfound : (search lookup bytes).found with
  | some frame => apply drain_of_found hfound
  | none =>
      have hdrain := drain_of_not_found hfound
      have hstuck := stuck_drain lookup bytes
      rw [hdrain] at hstuck
      rw [hdrain, hstuck.drain_eq, List.append_nil]

/-- Bytes that arrive in two pieces are searched as if they had arrived in one. -/
theorem drain_append (lookup : Lookup) (bytes more : List UInt8) :
  drain lookup (bytes ++ more) =
    ((drain lookup bytes).1 ++ (drain lookup ((drain lookup bytes).2 ++ more)).1,
      (drain lookup ((drain lookup bytes).2 ++ more)).2)
  := by
  induction bytes using search_induction lookup with
  | stuck bytes stuck =>
      rw [stuck.drain_eq]
      rfl
  | step bytes finding rest step ih =>
      rw [step.drain_eq, (step.append more).drain_eq, ih]
      simp only [List.append_assoc]

/-! ### The single pass -/

theorem scanFrom_eq_drop (lookup : Lookup) (skip : Nat) (bytes : List UInt8) :
  scanFrom lookup skip bytes = scan lookup (bytes.drop skip)
  := by
  induction skip generalizing bytes with
  | zero => rfl
  | succ skip ih =>
      cases bytes with
      | nil => simp only [scanFrom, scan, List.drop_nil]
      | cons b bytes => rw [scanFrom, ih, List.drop_succ_cons]

/-- The single pass over a byte string finds what repeated searches find. -/
theorem scan_eq_drain (lookup : Lookup) (bytes : List UInt8) :
  scan lookup bytes = drain lookup bytes
  := by
  induction bytes using search_induction lookup with
  | stuck bytes stuck =>
      rw [stuck.drain_eq]
      cases stuck with
      | nil => rfl
      | incomplete marker verdict => simp only [scan, scanFrom, marker, verdict]
  | step bytes finding rest step ih =>
      rw [step.drain_eq, ← ih]
      cases step with
      | noise marker =>
          simp only [scan, scanFrom, marker]
          rfl
      | rejected marker verdict =>
          simp only [scan, scanFrom, marker, verdict]
          rfl
      | found marker verdict =>
          simp only [scan, scanFrom, marker, verdict]
          rw [scanFrom_eq_drop]
          rfl

/-- What the single pass leaves is the end of the bytes. -/
theorem scan_suffix (lookup : Lookup) (bytes : List UInt8) :
  (scan lookup bytes).2 <:+ bytes
  := by
  rw [scan_eq_drain]
  induction bytes using search_induction lookup with
  | stuck bytes stuck =>
      use []
      rw [stuck.drain_eq, List.nil_append]
  | step bytes finding rest step ih =>
      rw [step.drain_eq]
      apply ih.trans step.suffix

end FlightBus

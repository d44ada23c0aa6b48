import FlightBus.Frame.Deframer
import FlightBus.Proofs.Frame.Search

/-!
# Schedules

A deframer takes a byte stream by a schedule of calls, of which some take one byte, some
take several, and some none.  What the calls find does not depend on the schedule: it is a
prefix of what a single pass over the whole stream finds, and nothing is missing once a call
without bytes finds no frame any more.

The invariant behind this is that what a deframer has found so far, followed by what a drain
of its window would still find, is what a drain of the whole stream finds.
-/

namespace FlightBus

/-! ### Counting -/

/-- The classes of findings that are counted apart. -/
inductive FindingClass
  | frame
  | badChecksum
  | unknown
  | malformed
deriving DecidableEq, Repr

/-- The class of a finding. -/
def Finding.class : Finding → FindingClass
  | .frame _ => .frame
  | .rejected (.checksumMismatch ..) => .badChecksum
  | .rejected (.unknownMessage _) => .unknown
  | .rejected (.unsupportedFlags _) => .malformed
  | .rejected (.badLength ..) => .malformed

namespace FindingCounts

/-- The counter of a class. -/
def get (counts : FindingCounts) : FindingClass → UInt32
  | .frame => counts.frames
  | .badChecksum => counts.badChecksum
  | .unknown => counts.unknown
  | .malformed => counts.malformed

theorem get_add (counts : FindingCounts) (finding : Finding) (c : FindingClass) :
  (counts.add finding).get c = counts.get c + if finding.class = c then 1 else 0
  := by
  match finding with
  | .frame _ => cases c <;> simp [add, get, Finding.class]
  | .rejected (.checksumMismatch ..) => cases c <;> simp [add, get, Finding.class]
  | .rejected (.unknownMessage _) => cases c <;> simp [add, get, Finding.class]
  | .rejected (.unsupportedFlags _) => cases c <;> simp [add, get, Finding.class]
  | .rejected (.badLength ..) => cases c <;> simp [add, get, Finding.class]

theorem addAll_append (counts : FindingCounts) (findings others : List Finding) :
  counts.addAll (findings ++ others) = (counts.addAll findings).addAll others
  := by
  apply List.foldl_append

/-- A counter counts the findings of its class, modulo its range. -/
theorem toNat_get_addAll (counts : FindingCounts) (findings : List Finding)
    (c : FindingClass) :
  ((counts.addAll findings).get c).toNat =
    ((counts.get c).toNat + findings.countP (fun finding => finding.class = c)) % UInt32.size
  := by
  induction findings generalizing counts with
  | nil =>
      symm
      apply Nat.mod_eq_of_lt
      apply UInt32.toNat_lt
  | cons finding findings ih =>
      have hadd (a b : UInt32) : (a + b).toNat = (a.toNat + b.toNat) % UInt32.size :=
        UInt32.toNat_add a b
      rw [addAll, List.foldl_cons, ← addAll, ih, get_add, List.countP_cons, hadd]
      by_cases hclass : finding.class = c
      · simp only [hclass, decide_true, if_true]
        rw [Nat.mod_add_mod, UInt32.toNat_one]
        congr 1
        omega
      · simp only [hclass, decide_false, if_false]
        simp

/-- The counter of frames counts the frames among findings. -/
theorem frames_addAll (counts : FindingCounts) (findings : List Finding) :
  (counts.addAll findings).frames =
    counts.frames + UInt32.ofNat (findings.filterMap Finding.frame?).length
  := by
  induction findings generalizing counts with
  | nil =>
      symm
      apply UInt32.add_zero
  | cons finding findings ih =>
      rw [addAll, List.foldl_cons, ← addAll, ih]
      cases finding with
      | rejected cause => cases cause <;> rfl
      | frame frame =>
          have hframe : (Finding.frame frame).frame? = some frame := rfl
          rw [List.filterMap_cons_some hframe, List.length_cons, Nat.add_comm,
            UInt32.ofNat_add, ← UInt32.add_assoc]
          rfl

/-- Counting frames counts nothing else. -/
theorem addAll_frames (counts : FindingCounts) (frames : List Frame) :
  counts.addAll (frames.map Finding.frame) =
    { counts with frames := counts.frames + UInt32.ofNat frames.length }
  := by
  induction frames generalizing counts with
  | nil =>
      change counts = { counts with frames := counts.frames + 0 }
      rw [UInt32.add_zero]
  | cons frame frames ih =>
      change (counts.add (.frame frame)).addAll (frames.map Finding.frame) = _
      rw [ih, List.length_cons, Nat.add_comm frames.length 1, UInt32.ofNat_add,
        ← UInt32.add_assoc]
      rfl

end FindingCounts

/-! ### Calls -/

/-- The calls that a deframer answers. -/
inductive DeframerCall
  /-- Takes a byte and searches for the next frame. -/
  | push (byte : UInt8)
  /-- Takes bytes and searches for all frames. -/
  | pushAll (bytes : List UInt8)
  /-- Searches for the next frame. -/
  | poll
deriving DecidableEq, Repr

/-- The bytes that a call hands over. -/
def DeframerCall.bytes : DeframerCall → List UInt8
  | push byte => [byte]
  | pushAll bytes => bytes
  | poll => []

/-- The byte stream that a schedule hands over. -/
def DeframerCall.stream (calls : List DeframerCall) : List UInt8 :=
  calls.flatMap bytes

namespace Deframer

/-- Answers a call. -/
def answer (lookup : Lookup) (deframer : Deframer) : DeframerCall → List Finding × Deframer
  | .push byte => deframer.push lookup byte
  | .pushAll bytes => pushAll lookup bytes deframer
  | .poll => deframer.poll lookup

/-- Answers the calls of a schedule, in order. -/
def answerAll (lookup : Lookup) : List DeframerCall → Deframer → List Finding × Deframer
  | [], deframer => ([], deframer)
  | call :: calls, deframer =>
      let (first, deframer) := deframer.answer lookup call
      let (others, deframer) := answerAll lookup calls deframer
      (first ++ others, deframer)

/-- A poll finds no frame. -/
def IsSettled (lookup : Lookup) (deframer : Deframer) : Prop :=
  (deframer.poll lookup).1.filterMap Finding.frame? = []

/-! ### What a call finds -/

/-- Bytes can be pushed in two pieces. -/
theorem pushAll_append (lookup : Lookup) (bytes more : List UInt8) (deframer : Deframer) :
  pushAll lookup (bytes ++ more) deframer =
    let (findings, after) := pushAll lookup bytes deframer
    (findings ++ (pushAll lookup more after).1, (pushAll lookup more after).2)
  := by
  induction bytes generalizing deframer with
  | nil => rfl
  | cons byte bytes ih => simp only [List.cons_append, pushAll, ih, List.append_assoc]

/-- What taking bytes finds, followed by what is left to find then, is what is left to find
when the bytes are there. -/
theorem drain_append_pushAll (lookup : Lookup) (bytes : List UInt8) (deframer : Deframer) :
  FlightBus.drain lookup (deframer.window ++ bytes) =
    let (findings, after) := pushAll lookup bytes deframer
    (findings ++ (FlightBus.drain lookup after.window).1,
      (FlightBus.drain lookup after.window).2)
  := by
  induction bytes generalizing deframer with
  | nil => simp only [List.append_nil, pushAll, List.nil_append]
  | cons byte bytes ih =>
      rw [List.append_cons, drain_append]
      simp only [pushAll, drain, append]
      have := ih ⟨(FlightBus.drain lookup (deframer.window ++ [byte])).2,
        deframer.counts.addAll (FlightBus.drain lookup (deframer.window ++ [byte])).1⟩
      simp only at this
      rw [this]
      simp only [List.append_assoc]

/-- What a call finds, followed by what is left to find then, is what is left to find when
the bytes of the call are there. -/
theorem drain_append_answer (lookup : Lookup) (call : DeframerCall) (deframer : Deframer) :
  FlightBus.drain lookup (deframer.window ++ call.bytes) =
    let (findings, after) := deframer.answer lookup call
    (findings ++ (FlightBus.drain lookup after.window).1,
      (FlightBus.drain lookup after.window).2)
  := by
  cases call with
  | push byte => apply drain_eq_search
  | pushAll bytes => apply drain_append_pushAll
  | poll =>
      rw [DeframerCall.bytes, List.append_nil]
      apply drain_eq_search

/-- What a schedule finds, followed by what is left to find then, is what is left to find
when the whole stream is there. -/
theorem drain_append_answerAll (lookup : Lookup) (calls : List DeframerCall)
    (deframer : Deframer) :
  FlightBus.drain lookup (deframer.window ++ DeframerCall.stream calls) =
    let (findings, after) := answerAll lookup calls deframer
    (findings ++ (FlightBus.drain lookup after.window).1,
      (FlightBus.drain lookup after.window).2)
  := by
  induction calls generalizing deframer with
  | nil =>
      rw [DeframerCall.stream, List.flatMap_nil, List.append_nil]
      rfl
  | cons call calls ih =>
      have hcall := drain_append_answer lookup call deframer
      have hcalls := ih (deframer.answer lookup call).2
      rw [drain_append] at hcalls
      rw [DeframerCall.stream, List.flatMap_cons, ← List.append_assoc, drain_append, hcall,
        ← DeframerCall.stream]
      simp only [answerAll, List.append_assoc, Prod.mk.injEq] at hcalls ⊢
      constructor
      · rw [hcalls.1]
      · apply hcalls.2

/-! ### What a call counts -/

theorem counts_pushAll (lookup : Lookup) (bytes : List UInt8) (deframer : Deframer) :
  (pushAll lookup bytes deframer).2.counts =
    deframer.counts.addAll (pushAll lookup bytes deframer).1
  := by
  induction bytes generalizing deframer with
  | nil => rfl
  | cons byte bytes ih =>
      simp only [pushAll]
      rw [ih, FindingCounts.addAll_append]
      rfl

/-- After bytes were pushed, the search is stuck. -/
theorem stuck_pushAll {lookup : Lookup} (bytes : List UInt8) {deframer : Deframer}
    (stuck : Stuck lookup deframer.window) :
  Stuck lookup (pushAll lookup bytes deframer).2.window
  := by
  induction bytes generalizing deframer with
  | nil => apply stuck
  | cons byte bytes ih =>
      apply ih
      apply stuck_drain

/-- A deframer whose search is stuck finds in the bytes that are pushed what a drain
finds. -/
theorem pushAll_eq_drain {lookup : Lookup} (bytes : List UInt8) {deframer : Deframer}
    (stuck : Stuck lookup deframer.window) :
  pushAll lookup bytes deframer =
    ((FlightBus.drain lookup (deframer.window ++ bytes)).1,
      ⟨(FlightBus.drain lookup (deframer.window ++ bytes)).2,
        deframer.counts.addAll (FlightBus.drain lookup (deframer.window ++ bytes)).1⟩)
  := by
  have hdrain := drain_append_pushAll lookup bytes deframer
  have hcounts := counts_pushAll lookup bytes deframer
  dsimp only at hdrain
  rw [(stuck_pushAll bytes stuck).drain_eq, List.append_nil] at hdrain
  rw [hdrain, ← hcounts]

theorem counts_answer (lookup : Lookup) (call : DeframerCall) (deframer : Deframer) :
  (deframer.answer lookup call).2.counts =
    deframer.counts.addAll (deframer.answer lookup call).1
  := by
  cases call with
  | push byte => rfl
  | pushAll bytes => apply counts_pushAll
  | poll => rfl

/-- Every finding of a schedule is counted, and counted once. -/
theorem counts_answerAll (lookup : Lookup) (calls : List DeframerCall)
    (deframer : Deframer) :
  (answerAll lookup calls deframer).2.counts =
    deframer.counts.addAll (answerAll lookup calls deframer).1
  := by
  induction calls generalizing deframer with
  | nil => rfl
  | cons call calls ih =>
      simp only [answerAll]
      rw [ih, counts_answer, FindingCounts.addAll_append]

/-! ### Polling -/

theorem answerAll_append (lookup : Lookup) (calls others : List DeframerCall)
    (deframer : Deframer) :
  answerAll lookup (calls ++ others) deframer =
    let (findings, after) := answerAll lookup calls deframer
    (findings ++ (answerAll lookup others after).1, (answerAll lookup others after).2)
  := by
  induction calls generalizing deframer with
  | nil => rfl
  | cons call calls ih =>
      simp only [List.cons_append, answerAll, ih, List.append_assoc]

theorem isSettled_iff (lookup : Lookup) (deframer : Deframer) :
  deframer.IsSettled lookup ↔ (search lookup deframer.window).found = none
  := by
  rw [IsSettled, poll, filterMap_frame?_findings]
  apply Option.toList_eq_nil_iff

/-- Polling comes to an end. -/
theorem exists_settled (lookup : Lookup) (deframer : Deframer) :
  ∃ n, (answerAll lookup (List.replicate n .poll) deframer).2.IsSettled lookup
  := by
  induction hlength : deframer.window.length using Nat.strongRecOn generalizing deframer with
  | ind length ih =>
      cases hfound : (search lookup deframer.window).found with
      | none =>
          use 0
          apply (isSettled_iff lookup deframer).mpr hfound
      | some frame =>
          have hshorter := length_rest_search lookup deframer.window
          rw [hfound, Option.isSome_some, if_pos rfl] at hshorter
          obtain ⟨n, hn⟩ := ih (search lookup deframer.window).rest.length (by omega)
            (deframer.poll lookup).2 rfl
          use n + 1
          apply hn

/-! ### Schedules -/

theorem stream_append_polls (calls : List DeframerCall) (n : Nat) :
  DeframerCall.stream (calls ++ List.replicate n .poll) = DeframerCall.stream calls
  := by
  induction n with
  | zero => rw [List.replicate_zero, List.append_nil]
  | succ n ih =>
      rw [List.replicate_succ', ← List.append_assoc, DeframerCall.stream, List.flatMap_append,
        ← DeframerCall.stream, ih]
      apply List.append_nil

/-- When a poll finds no frame, then it completes what a single pass over the stream
finds. -/
theorem answerAll_poll_of_settled (lookup : Lookup) (calls : List DeframerCall)
    (settled : (answerAll lookup calls {}).2.IsSettled lookup) :
  (answerAll lookup (calls ++ [.poll]) {}).1 = (scan lookup (DeframerCall.stream calls)).1 ∧
    (answerAll lookup (calls ++ [.poll]) {}).2.window =
      (scan lookup (DeframerCall.stream calls)).2
  := by
  have hfound := (isSettled_iff lookup _).mp settled
  have hdrain := drain_append_answerAll lookup calls {}
  simp only [List.nil_append, drain_of_not_found hfound] at hdrain
  rw [scan_eq_drain, hdrain, answerAll_append]
  constructor
  · simp only [answerAll, answer, poll, List.append_nil]
  · rfl

/-- Whatever the schedule, the frames found are the first of those that a single pass over
the stream finds.  Polling comes to an end, and when a poll finds no frame, then the
findings, the window and, modulo their range, the counters are those of the single pass, and
the window is the end of the stream. -/
theorem answerAll_refines_scan (lookup : Lookup) (calls : List DeframerCall) :
  (answerAll lookup calls {}).1.filterMap Finding.frame? <+:
      (scan lookup (DeframerCall.stream calls)).1.filterMap Finding.frame? ∧
    (∃ n, (answerAll lookup (calls ++ List.replicate n .poll) {}).2.IsSettled lookup) ∧
    ∀ n, (answerAll lookup (calls ++ List.replicate n .poll) {}).2.IsSettled lookup →
      let result := answerAll lookup (calls ++ List.replicate (n + 1) .poll) {}
      result.1 = (scan lookup (DeframerCall.stream calls)).1 ∧
        result.2.window = (scan lookup (DeframerCall.stream calls)).2 ∧
        result.2.window <:+ DeframerCall.stream calls ∧
        ∀ c, (result.2.counts.get c).toNat =
          (scan lookup (DeframerCall.stream calls)).1.countP
            (fun finding => finding.class = c) % UInt32.size
  := by
  refine ⟨?_, ?_, ?_⟩
  · have hdrain := drain_append_answerAll lookup calls {}
    rw [List.nil_append, ← scan_eq_drain] at hdrain
    rw [hdrain, List.filterMap_append]
    apply List.prefix_append
  · obtain ⟨n, hn⟩ := exists_settled lookup (answerAll lookup calls {}).2
    use n
    rw [answerAll_append]
    apply hn
  · intro n settled
    obtain ⟨hfindings, hwindow⟩ := answerAll_poll_of_settled lookup _ settled
    rw [stream_append_polls, List.append_assoc, ← List.replicate_succ'] at hfindings hwindow
    refine ⟨hfindings, hwindow, ?_, ?_⟩
    · rw [hwindow]
      apply scan_suffix
    · intro c
      rw [counts_answerAll, FindingCounts.toNat_get_addAll, hfindings]
      cases c <;> simp [FindingCounts.get]

/-- A marker that starts no frame, then a frame, then the first bytes of another: two calls cut
the frame in two and find what a single pass finds. -/
example :
    let lookup := Lookup.ofList [⟨MessageId.truncate 5, 1, 1, 0⟩]
    let stream := [0xfe, 0xfe, 1, 0, 1, 1, 5, 7, 16, 143, 0xfe, 1, 1]
    let result := answerAll lookup [.pushAll (stream.take 4), .pushAll (stream.drop 4)] {}
    result.1.map Finding.class = [.unknown, .frame] ∧ result.2.window = [0xfe, 1, 1] ∧
      scan lookup stream = (result.1, result.2.window) := by
  decide +kernel

/-! ### Windows -/

/-- A search for one frame leaves less than a packet if it is given no more than one. -/
theorem length_rest_search_lt (lookup : Lookup) {bytes : List UInt8}
    (h : bytes.length ≤ Packet.size) :
  (search lookup bytes).rest.length < Packet.size
  := by
  cases hfound : (search lookup bytes).found with
  | none =>
      have hstuck := stuck_drain lookup bytes
      rw [drain_of_not_found hfound] at hstuck
      apply hstuck.length_lt
  | some frame =>
      have hshorter := length_rest_search lookup bytes
      rw [hfound, Option.isSome_some, if_pos rfl] at hshorter
      omega

theorem length_window_answer_lt (lookup : Lookup) (call : DeframerCall)
    {deframer : Deframer} (h : deframer.window.length < Packet.size) :
  (deframer.answer lookup call).2.window.length < Packet.size
  := by
  cases call with
  | push byte =>
      apply length_rest_search_lt
      rw [append, List.length_append]
      apply h
  | poll =>
      apply length_rest_search_lt
      apply Nat.le_of_lt h
  | pushAll bytes =>
      induction bytes generalizing deframer with
      | nil => apply h
      | cons byte bytes ih =>
          apply ih
          apply Stuck.length_lt
          apply stuck_drain

end Deframer

end FlightBus

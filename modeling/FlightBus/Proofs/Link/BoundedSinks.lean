import FlightBus.Link.Sink
import Mathlib.Data.List.DropRight

/-!
# Sinks of bounded size

Sinks that store their bytes in a room of fixed size are the same, whatever the room is: a
write is taken as a whole if it fits behind what is stored, and refused as a whole if it does
not.  `AllOrNothing` says so of the single operations of a type of sinks, `abstract` forgets
all of a sink but its capacity and its contents, and a bounded sink does with these what the
sink does.  So sinks of two types with the same capacity cannot be told apart by writing
into them and clearing them.
-/

namespace FlightBus

/-- The types of sinks whose contents can be looked at and dropped. -/
class StoringSink (σ : Type) extends ByteSink σ where
  /-- The bytes taken. -/
  contents : σ → List UInt8
  /-- The sink without contents. -/
  clear : σ → σ

instance : StoringSink FixedSink where
  contents := FixedSink.contents
  clear := FixedSink.clear

instance : StoringSink BoundedSink where
  contents := BoundedSink.contents
  clear := BoundedSink.clear

/-- The sinks of a type that satisfy a condition store up to a number of bytes, and they keep
to the condition.  A write that fits is stored behind the contents.  A write that does not fit
is refused, and changes nothing. -/
structure AllOrNothing (σ : Type) [StoringSink σ] (capacity : Nat) (IsValid : σ → Prop) :
    Prop where
  length_le : ∀ {sink : σ}, IsValid sink → (StoringSink.contents sink).length ≤ capacity
  write : ∀ {sink : σ} (bytes : List UInt8), IsValid sink →
    (StoringSink.contents sink).length + bytes.length ≤ capacity →
    ∃ after, ByteSink.write? sink bytes = some after ∧ IsValid after ∧
      StoringSink.contents after = StoringSink.contents sink ++ bytes
  refuse : ∀ {sink : σ} (bytes : List UInt8), IsValid sink →
    capacity < (StoringSink.contents sink).length + bytes.length →
    ByteSink.write? sink bytes = none ∧ ByteSink.refuse sink bytes = sink
  clear : ∀ {sink : σ}, IsValid sink →
    IsValid (StoringSink.clear sink) ∧ StoringSink.contents (StoringSink.clear sink) = []

/-! ### The two implementations -/

/-- A fixed sink has a store of the given size, and has taken no more bytes than this. -/
def FixedSink.Fits (capacity : Nat) (sink : FixedSink) : Prop :=
  sink.store.length = capacity ∧ sink.length ≤ capacity

theorem FixedSink.length_contents {capacity : Nat} {sink : FixedSink}
    (fits : sink.Fits capacity) :
  sink.contents.length = sink.length
  := by
  obtain ⟨hstore, hlength⟩ := fits
  rw [contents, List.length_take]
  omega

/-- A fixed sink stores whole writes up to the size of its store. -/
theorem FixedSink.allOrNothing (capacity : Nat) :
  AllOrNothing FixedSink capacity (FixedSink.Fits capacity)
  := by
  constructor
  · intro sink fits
    apply (length_contents fits).trans_le fits.2
  · intro sink bytes fits hroom
    change sink.contents.length + bytes.length ≤ capacity at hroom
    rw [length_contents fits] at hroom
    obtain ⟨hstore, hlength⟩ := fits
    have hfits : sink.length + bytes.length ≤ sink.store.length := by omega
    refine ⟨⟨overwrite sink.store sink.length bytes, sink.length + bytes.length⟩, ?_, ?_, ?_⟩
    · change sink.write? bytes = _
      rw [write?, if_neg (Nat.not_lt_of_le hfits)]
    · constructor
      · rw [length_overwrite hfits, hstore]
      · apply hroom
    · have hfront : (sink.store.take sink.length ++ bytes).length =
          sink.length + bytes.length := by
        rw [List.length_append, List.length_take]
        omega
      change (overwrite sink.store sink.length bytes).take _ = _
      rw [overwrite, List.take_left' hfront]
      rfl
  · intro sink bytes fits hroom
    change capacity < sink.contents.length + bytes.length at hroom
    rw [length_contents fits, ← fits.1] at hroom
    constructor
    · change sink.write? bytes = none
      rw [write?, if_pos hroom]
    · rfl
  · intro sink fits
    refine ⟨⟨fits.1, Nat.zero_le _⟩, rfl⟩

/-- A bounded sink has the given capacity, and no more contents than this. -/
def BoundedSink.Fits (capacity : Nat) (sink : BoundedSink) : Prop :=
  sink.capacity = capacity ∧ sink.contents.length ≤ capacity

/-- A bounded sink stores whole writes up to its capacity. -/
theorem BoundedSink.allOrNothing (capacity : Nat) :
  AllOrNothing BoundedSink capacity (BoundedSink.Fits capacity)
  := by
  constructor
  · intro sink fits
    apply fits.2
  · intro sink bytes fits hroom
    obtain ⟨hcapacity, hlength⟩ := fits
    change sink.contents.length + bytes.length ≤ capacity at hroom
    refine ⟨{ sink with contents := sink.contents ++ bytes }, ?_, ?_, rfl⟩
    · change sink.write? bytes = _
      rw [write?, if_pos (by omega)]
    · constructor
      · apply hcapacity
      · rw [List.length_append]
        apply hroom
  · intro sink bytes fits hroom
    obtain ⟨hcapacity, hlength⟩ := fits
    change capacity < sink.contents.length + bytes.length at hroom
    constructor
    · change sink.write? bytes = none
      rw [write?, if_neg (by omega)]
    · rfl
  · intro sink fits
    refine ⟨⟨fits.1, Nat.zero_le _⟩, rfl⟩

/-! ### Calls -/

/-- The calls that a sink answers. -/
inductive SinkCall
  | write (bytes : List UInt8)
  | clear
deriving DecidableEq, Repr

/-- What becomes of a call. -/
inductive SinkEvent
  | taken (bytes : List UInt8)
  | refused (bytes : List UInt8)
  | cleared
deriving DecidableEq, Repr

namespace SinkEvent

/-- The bytes that are taken. -/
def bytes : SinkEvent → List UInt8
  | taken bytes => bytes
  | _ => []

/-- The writes that were taken since the sink was cleared for the last time, one behind the
other. -/
def stored (events : List SinkEvent) : List UInt8 :=
  (events.rtakeWhile (fun event => event ≠ cleared)).flatMap bytes

theorem stored_concat (events : List SinkEvent) (event : SinkEvent) :
  stored (events ++ [event]) = if event = cleared then [] else stored events ++ event.bytes
  := by
  rw [stored, List.rtakeWhile_concat]
  cases event with
  | taken bytes => simp [stored]
  | refused bytes => simp [stored]
  | cleared => simp

end SinkEvent

namespace StoringSink

variable {σ : Type} [StoringSink σ]

/-- Answers a call. -/
def answer (sink : σ) : SinkCall → SinkEvent × σ
  | .write bytes =>
    match ByteSink.write? sink bytes with
    | some after => (.taken bytes, after)
    | none => (.refused bytes, ByteSink.refuse sink bytes)
  | .clear => (.cleared, clear sink)

/-- Answers calls, in order. -/
def answerAll (sink : σ) : List SinkCall → List SinkEvent × σ
  | [] => ([], sink)
  | call :: calls =>
      let (event, sink) := answer sink call
      let (events, sink) := answerAll sink calls
      (event :: events, sink)

theorem answerAll_concat (sink : σ) (calls : List SinkCall) (call : SinkCall) :
  answerAll sink (calls ++ [call]) =
    let (events, before) := answerAll sink calls
    (events ++ [(answer before call).1], (answer before call).2)
  := by
  induction calls generalizing sink with
  | nil => rfl
  | cons first calls ih => simp only [List.cons_append, answerAll, ih]

/-- All of a sink but its capacity and its contents is forgotten. -/
def abstract (capacity : Nat) (sink : σ) : BoundedSink :=
  ⟨capacity, contents sink⟩

end StoringSink

namespace AllOrNothing

open StoringSink

variable {σ : Type} [StoringSink σ] {capacity : Nat} {IsValid : σ → Prop} {sink : σ}

/-- A bounded sink takes and refuses the same writes. -/
theorem write?_cases (allOrNothing : AllOrNothing σ capacity IsValid) (valid : IsValid sink)
    (bytes : List UInt8) :
  (∃ after, ByteSink.write? sink bytes = some after ∧ IsValid after ∧
      ByteSink.write? (abstract capacity sink) bytes = some (abstract capacity after)) ∨
    (ByteSink.write? sink bytes = none ∧ ByteSink.refuse sink bytes = sink ∧
      ByteSink.write? (abstract capacity sink) bytes = none)
  := by
  have hlength := allOrNothing.length_le valid
  by_cases hroom : (contents sink).length + bytes.length ≤ capacity
  · left
    obtain ⟨after, hwrite, hvalid, hcontents⟩ := allOrNothing.write bytes valid hroom
    refine ⟨after, hwrite, hvalid, ?_⟩
    change BoundedSink.write? _ _ = _
    rw [BoundedSink.write?, if_pos (by simp only [abstract]; omega), abstract, abstract,
      hcontents]
  · right
    obtain ⟨hwrite, hrefuse⟩ := allOrNothing.refuse bytes valid (Nat.lt_of_not_le hroom)
    refine ⟨hwrite, hrefuse, ?_⟩
    change BoundedSink.write? _ _ = none
    rw [BoundedSink.write?, if_neg (by simp only [abstract]; omega)]

/-- A bounded sink answers calls in the same way. -/
theorem answer_abstract (allOrNothing : AllOrNothing σ capacity IsValid)
    (valid : IsValid sink) (call : SinkCall) :
  IsValid (answer sink call).2 ∧
    answer (abstract capacity sink) call =
      ((answer sink call).1, abstract capacity (answer sink call).2)
  := by
  cases call with
  | write bytes =>
      rcases allOrNothing.write?_cases valid bytes with
        ⟨after, hwrite, hvalid, habstract⟩ | ⟨hwrite, hrefuse, habstract⟩
      · simp only [answer, hwrite, habstract, and_true]
        apply hvalid
      · simp only [answer, hwrite, hrefuse, habstract]
        exact ⟨valid, rfl⟩
  | clear =>
      obtain ⟨hvalid, hcontents⟩ := allOrNothing.clear valid
      refine ⟨hvalid, ?_⟩
      rw [answer, answer, abstract, abstract, hcontents]
      rfl

theorem answerAll_abstract (allOrNothing : AllOrNothing σ capacity IsValid)
    (valid : IsValid sink) (calls : List SinkCall) :
  IsValid (answerAll sink calls).2 ∧
    answerAll (abstract capacity sink) calls =
      ((answerAll sink calls).1, abstract capacity (answerAll sink calls).2)
  := by
  induction calls generalizing sink with
  | nil => exact ⟨valid, rfl⟩
  | cons call calls ih =>
      obtain ⟨hvalid, hanswer⟩ := allOrNothing.answer_abstract valid call
      obtain ⟨hafter, hanswers⟩ := ih hvalid
      refine ⟨hafter, ?_⟩
      simp only [answerAll, hanswer, hanswers]

/-- What a call adds to the contents. -/
theorem contents_answer (allOrNothing : AllOrNothing σ capacity IsValid)
    (valid : IsValid sink) (call : SinkCall) :
  contents (answer sink call).2 =
    if (answer sink call).1 = .cleared then []
    else contents sink ++ (answer sink call).1.bytes
  := by
  cases call with
  | write bytes =>
      by_cases hroom : (contents sink).length + bytes.length ≤ capacity
      · obtain ⟨after, hwrite, -, hcontents⟩ := allOrNothing.write bytes valid hroom
        simp only [answer, hwrite, hcontents]
        rfl
      · obtain ⟨hwrite, hrefuse⟩ := allOrNothing.refuse bytes valid (Nat.lt_of_not_le hroom)
        simp only [answer, hwrite, hrefuse]
        symm
        apply List.append_nil
  | clear => apply (allOrNothing.clear valid).2

/-- What a sink that was empty holds are the writes that were taken since it was cleared for
the last time. -/
theorem contents_answerAll (allOrNothing : AllOrNothing σ capacity IsValid)
    (valid : IsValid sink) (empty : contents sink = []) (calls : List SinkCall) :
  contents (answerAll sink calls).2 = SinkEvent.stored (answerAll sink calls).1
  := by
  induction calls using List.reverseRecOn with
  | nil => apply empty
  | append_singleton calls call ih =>
      obtain ⟨hvalid, -⟩ := allOrNothing.answerAll_abstract valid calls
      rw [answerAll_concat]
      dsimp only
      rw [allOrNothing.contents_answer hvalid call, SinkEvent.stored_concat, ih]

end AllOrNothing

/-- What a sink of a given capacity is like after some events.  It holds the writes that were
taken since it was cleared for the last time, it takes the writes that fit, and it refuses the
others and stays as it is. -/
structure HoldsWhole {σ : Type} [StoringSink σ] (capacity : Nat) (events : List SinkEvent)
    (sink : σ) : Prop where
  contents_eq : StoringSink.contents sink = SinkEvent.stored events
  length_le : (StoringSink.contents sink).length ≤ capacity
  taken : ∀ bytes : List UInt8,
    bytes.length ≤ capacity - (StoringSink.contents sink).length →
    ∃ after, StoringSink.answer sink (.write bytes) = (.taken bytes, after)
  refused : ∀ bytes : List UInt8,
    capacity - (StoringSink.contents sink).length < bytes.length →
    StoringSink.answer sink (.write bytes) = (.refused bytes, sink)

namespace AllOrNothing

open StoringSink

variable {σ τ : Type} [StoringSink σ] [StoringSink τ] {capacity : Nat} {IsValid : σ → Prop}
  {IsValid' : τ → Prop} {sink : σ} {other : τ}

/-- An empty sink holds whole writes after any calls. -/
theorem holdsWhole (allOrNothing : AllOrNothing σ capacity IsValid) (valid : IsValid sink)
    (empty : contents sink = []) (calls : List SinkCall) :
  HoldsWhole capacity (answerAll sink calls).1 (answerAll sink calls).2
  := by
  obtain ⟨hvalid, -⟩ := allOrNothing.answerAll_abstract valid calls
  have hlength := allOrNothing.length_le hvalid
  constructor
  · apply allOrNothing.contents_answerAll valid empty
  · apply hlength
  · intro bytes hroom
    obtain ⟨after, hwrite, -⟩ := allOrNothing.write bytes hvalid (by omega)
    use after
    simp only [answer, hwrite]
  · intro bytes hroom
    obtain ⟨hwrite, hrefuse⟩ := allOrNothing.refuse bytes hvalid (by omega)
    simp only [answer, hwrite, hrefuse]

/-- Empty sinks of the same capacity take and refuse the same writes, and hold the same. -/
theorem answerAll_agree (allOrNothing : AllOrNothing σ capacity IsValid)
    (allOrNothing' : AllOrNothing τ capacity IsValid') (valid : IsValid sink)
    (valid' : IsValid' other) (same : contents sink = contents other)
    (calls : List SinkCall) :
  (answerAll sink calls).1 = (answerAll other calls).1 ∧
    contents (answerAll sink calls).2 = contents (answerAll other calls).2
  := by
  obtain ⟨-, hsink⟩ := allOrNothing.answerAll_abstract valid calls
  obtain ⟨-, hother⟩ := allOrNothing'.answerAll_abstract valid' calls
  have habstract : abstract capacity sink = abstract capacity other := by
    rw [abstract, same, abstract]
  rw [habstract, hother, Prod.mk.injEq] at hsink
  obtain ⟨hevents, hafter⟩ := hsink
  exact ⟨hevents.symm, (congrArg BoundedSink.contents hafter).symm⟩

end AllOrNothing

end FlightBus

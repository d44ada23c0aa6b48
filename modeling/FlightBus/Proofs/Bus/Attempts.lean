import FlightBus.Message.Flight
import FlightBus.Proofs.Bus.Transmission

/-!
# Writes of a multiplexer

Sinks may take or refuse the writes of a multiplexer in any pattern.  Whatever they do, each
message that waited is attempted to be written once, in order, as the frame with the sequence
number that the frames taken before leave.  So the frames that are taken carry consecutive
sequence numbers, from one sink to the next and modulo 256, and the multiplexer counts all
frames, those that were taken and those that were refused.
-/

namespace FlightBus

/-- A write into a sink. -/
structure Attempt where
  /-- The bytes. -/
  bytes : List UInt8
  /-- Whether the sink took them. -/
  isTaken : Bool
deriving DecidableEq, Repr

namespace Attempt

/-- The sequence number in the header of the frame that is written. -/
def sequence? (attempt : Attempt) : Option UInt8 :=
  (Header.read? .v2 attempt.bytes).map (fun result => result.1.sequence)

/-- The number of writes that were taken. -/
def taken (attempts : List Attempt) : Nat :=
  attempts.countP Attempt.isTaken

/-- The number of writes that were refused. -/
def refused (attempts : List Attempt) : Nat :=
  attempts.countP (fun attempt => !attempt.isTaken)

theorem taken_eq_count (attempts : List Attempt) :
  taken attempts = (attempts.map Attempt.isTaken).count true
  := by
  rw [taken, List.count, List.countP_map]
  apply List.countP_congr
  intro attempt _
  simp

theorem taken_append (attempts others : List Attempt) :
  taken (attempts ++ others) = taken attempts + taken others
  := List.countP_append

theorem refused_append (attempts others : List Attempt) :
  refused (attempts ++ others) = refused attempts + refused others
  := List.countP_append

/-- Every write was taken or refused. -/
theorem taken_add_refused (attempts : List Attempt) :
  taken attempts + refused attempts = attempts.length
  := by
  rw [List.length_eq_countP_add_countP Attempt.isTaken, taken, refused]
  simp

end Attempt

/-- A sink that also keeps the writes that were made into it.  It takes what the sink takes
and refuses what the sink refuses. -/
structure Recorder (σ : Type) where
  /-- The sink. -/
  sink : σ
  /-- The writes. -/
  attempts : List Attempt := []

instance {σ : Type} [ByteSink σ] : ByteSink (Recorder σ) where
  write? recorder bytes :=
    (ByteSink.write? recorder.sink bytes).map
      (⟨·, recorder.attempts ++ [⟨bytes, true⟩]⟩)
  refuse recorder bytes :=
    ⟨ByteSink.refuse recorder.sink bytes, recorder.attempts ++ [⟨bytes, false⟩]⟩

variable {D : Dialect}

/-- The bytes of a message, encoded in a packet of zeros. -/
def Traffic.bytes (sequence : UInt8) (entry : Outlet × D.Message) : List UInt8 :=
  ((D.format entry.2.1).encode entry.2.2 entry.1.system entry.1.component sequence
    Packet.blank).bytes

/-- What was in the packet before does not show in the bytes of a message. -/
theorem Traffic.bytes_encode (sequence : UInt8) (entry : Outlet × D.Message)
    (packet : Packet) :
  ((D.format entry.2.1).encode entry.2.2 entry.1.system entry.1.component sequence
      packet).bytes =
    Traffic.bytes sequence entry
  := by
  rw [Traffic.bytes, Format.bytes_encode, Format.bytes_encode]

/-- The sequence number is read back from the header. -/
theorem Traffic.sequence?_of_bytes_eq {attempt : Attempt} {sequence : UInt8}
    {entry : Outlet × D.Message} (h : attempt.bytes = Traffic.bytes sequence entry) :
  attempt.sequence? = some sequence
  := by
  rw [Attempt.sequence?, h, Traffic.bytes, Format.bytes_encode]
  rfl

/-! ### Attempts to write messages -/

/-- Attempts to write messages, one for each, in order.  The sequence number of the next frame
goes on by one when a frame is taken. -/
inductive Attempted : UInt8 → Traffic D → List Attempt → Prop
  | nil (sequence : UInt8) : Attempted sequence [] []
  | cons {sequence : UInt8} {entry : Outlet × D.Message} {traffic : Traffic D}
      {attempt : Attempt} {attempts : List Attempt}
      (bytes_eq : attempt.bytes = Traffic.bytes sequence entry)
      (others : Attempted (sequence + UInt8.ofNat (Attempt.taken [attempt])) traffic attempts) :
      Attempted sequence (entry :: traffic) (attempt :: attempts)

namespace Attempted

variable {sequence : UInt8} {traffic others : Traffic D} {attempts more : List Attempt}

/-- There is one attempt for each message. -/
theorem length_eq (attempted : Attempted sequence traffic attempts) :
  attempts.length = traffic.length
  := by
  induction attempted with
  | nil => rfl
  | cons _ _ ih => rw [List.length_cons, ih, List.length_cons]

/-- The bytes of an attempt are those of the message with the sequence number that the frames
taken before it leave. -/
theorem bytes_eq (attempted : Attempted sequence traffic attempts) {i : Nat}
    {entry : Outlet × D.Message} (h : traffic[i]? = some entry) :
  (attempts[i]?).map Attempt.bytes =
    some (Traffic.bytes
      (sequence + UInt8.ofNat (Attempt.taken (attempts.take i))) entry)
  := by
  induction attempted generalizing i with
  | nil => cases h
  | @cons sequence first traffic attempt attempts hbytes _ ih =>
      cases i with
      | zero =>
          cases h
          change some attempt.bytes = some (Traffic.bytes (sequence + 0) entry)
          rw [UInt8.add_zero, hbytes]
      | succ i =>
          rw [List.getElem?_cons_succ] at h ⊢
          have htaken := Attempt.taken_append [attempt] (attempts.take i)
          rw [ih h, List.take_succ_cons, UInt8.add_assoc, ← UInt8.ofNat_add, ← htaken]
          rfl

/-- Attempts may follow each other, the later ones from the sequence number that the earlier ones
leave. -/
theorem append (first : Attempted sequence traffic attempts)
    (second : Attempted (sequence + UInt8.ofNat (Attempt.taken attempts)) others more) :
  Attempted sequence (traffic ++ others) (attempts ++ more)
  := by
  induction first with
  | nil sequence =>
      change Attempted (sequence + 0) others more at second
      rw [UInt8.add_zero] at second
      apply second
  | cons hbytes _ ih =>
      apply Attempted.cons hbytes
      apply ih
      rw [UInt8.add_assoc, ← UInt8.ofNat_add, ← Attempt.taken_append]
      apply second

/-- The frames that are taken carry consecutive sequence numbers. -/
theorem sequence?_taken (attempted : Attempted sequence traffic attempts) {k : Nat}
    {attempt : Attempt} (h : (attempts.filter Attempt.isTaken)[k]? = some attempt) :
  attempt.sequence? = some (sequence + UInt8.ofNat k)
  := by
  induction attempted generalizing k with
  | nil => cases h
  | @cons sequence entry traffic first attempts hbytes _ ih =>
      cases hfirst : first.isTaken with
      | false =>
          rw [List.filter_cons_of_neg (by simp [hfirst])] at h
          have hothers := ih h
          have hnone : Attempt.taken [first] = 0 := by simp [Attempt.taken, hfirst]
          rw [hnone] at hothers
          change _ = some (sequence + 0 + _) at hothers
          rw [UInt8.add_zero] at hothers
          apply hothers
      | true =>
          rw [List.filter_cons_of_pos hfirst] at h
          cases k with
          | zero =>
              obtain rfl := Option.some.inj h
              change _ = some (sequence + 0)
              rw [UInt8.add_zero]
              apply Traffic.sequence?_of_bytes_eq hbytes
          | succ k =>
              rw [List.getElem?_cons_succ] at h
              have hone : Attempt.taken [first] = 1 := by simp [Attempt.taken, hfirst]
              have hothers := ih h
              rw [hone, UInt8.add_assoc, ← UInt8.ofNat_add, Nat.add_comm] at hothers
              apply hothers

end Attempted

namespace Multiplexer

/-! ### Counting -/

/-- From one state of a multiplexer to another, it was attempted to write messages, and the
multiplexer counted what was taken and what was refused. -/
structure Counts (before after : Multiplexer) (traffic : Traffic D)
    (attempts : List Attempt) : Prop where
  attempted : Attempted before.sequence traffic attempts
  sequence_eq : after.sequence = before.sequence + UInt8.ofNat (Attempt.taken attempts)
  frames_eq : after.frames = before.frames + UInt32.ofNat (Attempt.taken attempts)
  refused_eq : after.refused = before.refused + UInt32.ofNat (Attempt.refused attempts)

namespace Counts

variable {before middle after : Multiplexer} {traffic others : Traffic D}
  {attempts more : List Attempt}

theorem nil (sequence_eq : after.sequence = before.sequence)
    (frames_eq : after.frames = before.frames) (refused_eq : after.refused = before.refused) :
  Counts before after ([] : Traffic D) []
  := by
  refine ⟨.nil _, ?_, ?_, ?_⟩
  · rw [sequence_eq]
    symm
    apply UInt8.add_zero
  · rw [frames_eq]
    symm
    apply UInt32.add_zero
  · rw [refused_eq]
    symm
    apply UInt32.add_zero

/-- What was counted one after the other was counted together. -/
theorem append (first : Counts before middle traffic attempts)
    (second : Counts middle after others more) :
  Counts before after (traffic ++ others) (attempts ++ more)
  := by
  refine ⟨?_, ?_, ?_, ?_⟩
  · apply first.attempted.append
    rw [← first.sequence_eq]
    apply second.attempted
  · rw [second.sequence_eq, first.sequence_eq, Attempt.taken_append, UInt8.ofNat_add,
      UInt8.add_assoc]
  · rw [second.frames_eq, first.frames_eq, Attempt.taken_append, UInt32.ofNat_add,
      UInt32.add_assoc]
  · rw [second.refused_eq, first.refused_eq, Attempt.refused_append, UInt32.ofNat_add,
      UInt32.add_assoc]

/-- The frames that were taken and those that were refused are all frames. -/
theorem frames_add_refused (counts : Counts before after traffic attempts)
    (h : before.frames.toNat + before.refused.toNat + attempts.length < UInt32.size) :
  after.frames.toNat + after.refused.toNat =
    before.frames.toNat + before.refused.toNat + attempts.length
  := by
  have hsum := Attempt.taken_add_refused attempts
  have htaken : (UInt32.ofNat (Attempt.taken attempts)).toNat = Attempt.taken attempts :=
    UInt32.toNat_ofNat_of_lt' (by omega)
  have hrefused : (UInt32.ofNat (Attempt.refused attempts)).toNat =
      Attempt.refused attempts :=
    UInt32.toNat_ofNat_of_lt' (by omega)
  have hsize : UInt32.size = 2 ^ 32 := rfl
  rw [counts.frames_eq, counts.refused_eq, UInt32.toNat_add, UInt32.toNat_add, htaken,
    hrefused, Nat.mod_eq_of_lt (by omega), Nat.mod_eq_of_lt (by omega)]
  omega

end Counts

section Sinks

variable {σ : Type} [ByteSink σ]

/-- Whether the sink takes the frame of a message or refuses it, the write is made once and
counted. -/
theorem counts_emit (state : Emission (Recorder σ)) (entry : Outlet × D.Message) :
  ∃ attempt, (emit entry.1 state entry.2).sink.attempts = state.sink.attempts ++ [attempt] ∧
    Counts state.mux (emit entry.1 state entry.2).mux [entry] [attempt]
  := by
  have hbytes := Traffic.bytes_encode state.mux.sequence entry state.mux.packet
  cases hwrite : ByteSink.write? state.sink (Traffic.bytes state.mux.sequence entry) with
  | none =>
      refine ⟨⟨Traffic.bytes state.mux.sequence entry, false⟩, ?_⟩
      simp only [emit, hbytes, hwrite]
      refine ⟨rfl, .cons rfl (.nil _), ?_, ?_, rfl⟩
      · symm
        apply UInt8.add_zero
      · symm
        apply UInt32.add_zero
  | some sink =>
      obtain ⟨inner, -, hsink⟩ := Option.map_eq_some_iff.mp hwrite
      refine ⟨⟨Traffic.bytes state.mux.sequence entry, true⟩, ?_⟩
      simp only [emit, hbytes, hwrite]
      refine ⟨?_, .cons rfl (.nil _), rfl, rfl, ?_⟩
      · rw [← hsink]
      · symm
        apply UInt32.add_zero

/-- For messages one after the other there is a write each, and all are counted. -/
theorem counts_emitAll (state : Emission (Recorder σ)) (traffic : Traffic D) :
  ∃ attempts, (emitAll state traffic).sink.attempts = state.sink.attempts ++ attempts ∧
    Counts state.mux (emitAll state traffic).mux traffic attempts
  := by
  induction traffic generalizing state with
  | nil => exact ⟨[], (List.append_nil _).symm, .nil rfl rfl rfl⟩
  | cons entry traffic ih =>
      obtain ⟨attempt, hkept, hfirst⟩ := counts_emit state entry
      obtain ⟨attempts, hmore, hothers⟩ := ih (emit entry.1 state entry.2)
      refine ⟨attempt :: attempts, ?_, hfirst.append hothers⟩
      apply hmore.trans
      rw [hkept, List.append_assoc, List.singleton_append]

/-- Writing messages does not change which receivers there are. -/
theorem outlets_emitAll (state : Emission σ) (traffic : Traffic D) :
  (emitAll state traffic).mux.outlets = state.mux.outlets
  := by
  induction traffic generalizing state with
  | nil => rfl
  | cons entry traffic ih =>
      apply (ih (emit entry.1 state entry.2)).trans
      rw [emit]
      dsimp only
      split
      · rfl
      · rfl

/-! ### Recording changes nothing -/

/-- The work on a sink whose writes are kept, as work on the sink itself. -/
def bare (state : Emission (Recorder σ)) : Emission σ :=
  ⟨state.mux, state.sink.sink, state.records⟩

/-- It makes no difference to the sink whether its writes are kept. -/
theorem bare_emit (outlet : Outlet) (state : Emission (Recorder σ)) (message : D.Message) :
  bare (emit outlet state message) = emit outlet (bare state) message
  := by
  rw [emit, emit]
  simp only [bare]
  generalize (D.format message.1).encode message.2 outlet.system outlet.component
    state.mux.sequence state.mux.packet = encoded
  have hrecorder : ByteSink.write? state.sink encoded.bytes =
      (ByteSink.write? state.sink.sink encoded.bytes).map
        (⟨·, state.sink.attempts ++ [⟨encoded.bytes, true⟩]⟩) := rfl
  rw [hrecorder]
  cases ByteSink.write? state.sink.sink encoded.bytes with
  | none => rfl
  | some sink => rfl

theorem bare_emitAll (state : Emission (Recorder σ)) (traffic : Traffic D) :
  bare (emitAll state traffic) = emitAll (bare state) traffic
  := by
  induction traffic generalizing state with
  | nil => rfl
  | cons entry traffic ih =>
      change bare (emitAll (emit entry.1 state entry.2) traffic) = _
      rw [ih, bare_emit]
      rfl

/-! ### Single calls -/

/-- The writes that flushing a multiplexer makes into a sink. -/
def attempts (mux : Multiplexer) (hub : Hub D.Message) (sink : σ) : List Attempt :=
  (mux.flush hub (⟨sink, []⟩ : Recorder σ)).2.sink.attempts

/-- What flushing a multiplexer does.  Keeping the writes changes nothing.  No message waits
any longer for a receiver of the multiplexer, and nothing changes for other receivers.  There
is one write for each message that waited, in order, and its bytes are those of the message
with the sequence number that the frames taken before leave.  The multiplexer counts what was
taken and what was refused. -/
structure Fulfils (mux : Multiplexer) (hub : Hub D.Message) (sink : σ) : Prop where
  bare_eq : bare (mux.flush hub (⟨sink, []⟩ : Recorder σ)).2 = (mux.flush hub sink).2
  waiting_eq : ∀ r, (mux.flush hub sink).1.waiting r =
    if ∃ outlet ∈ mux.outlets, outlet.receiver = r then [] else hub.waiting r
  length_eq : (mux.attempts hub sink).length = (mux.pending hub).length
  bytes_eq : ∀ i entry, (mux.pending hub)[i]? = some entry →
    ((mux.attempts hub sink)[i]?).map Attempt.bytes =
      some (Traffic.bytes
        (mux.sequence + UInt8.ofNat (Attempt.taken ((mux.attempts hub sink).take i))) entry)
  sequence_eq : (mux.flush hub sink).2.mux.sequence =
    mux.sequence + UInt8.ofNat (Attempt.taken (mux.attempts hub sink))
  frames_eq : (mux.flush hub sink).2.mux.frames =
    mux.frames + UInt32.ofNat (Attempt.taken (mux.attempts hub sink))
  refused_eq : (mux.flush hub sink).2.mux.refused =
    mux.refused + UInt32.ofNat (Attempt.refused (mux.attempts hub sink))

section Flush

variable {mux : Multiplexer} {hub : Hub D.Message}

theorem bare_flush (sound : hub.Sound)
    (distinct :
      mux.outlets.Pairwise (fun outlet other => outlet.receiver ≠ other.receiver))
    (sink : σ) :
  bare (mux.flush hub (⟨sink, []⟩ : Recorder σ)).2 = (mux.flush hub sink).2
  := by
  rw [flush_eq_emitAll sound distinct, flush_eq_emitAll sound distinct, bare_emitAll]
  rfl

/-- Flushing a multiplexer leaves it its receivers. -/
theorem outlets_flush (sound : hub.Sound)
    (distinct :
      mux.outlets.Pairwise (fun outlet other => outlet.receiver ≠ other.receiver))
    (sink : σ) :
  (mux.flush hub sink).2.mux.outlets = mux.outlets
  := by
  rw [flush_eq_emitAll sound distinct]
  apply outlets_emitAll

/-- A flush counts the messages that wait. -/
theorem counts_flush (sound : hub.Sound)
    (distinct :
      mux.outlets.Pairwise (fun outlet other => outlet.receiver ≠ other.receiver))
    (sink : σ) :
  Counts mux (mux.flush hub sink).2.mux (mux.pending hub) (mux.attempts hub sink)
  := by
  have hflush := flush_eq_emitAll sound distinct (⟨sink, []⟩ : Recorder σ)
  obtain ⟨attempts, hkept, counts⟩ :=
    counts_emitAll { mux, sink := (⟨sink, []⟩ : Recorder σ) } (mux.pending hub)
  have hattempts : mux.attempts hub sink = attempts := by
    rw [Multiplexer.attempts, hflush]
    apply hkept
  rw [← hflush] at counts
  rw [hattempts, ← bare_flush sound distinct]
  apply counts

/-- Every flush does what is asked of it, whatever the sink takes. -/
theorem fulfils (sound : hub.Sound)
    (distinct :
      mux.outlets.Pairwise (fun outlet other => outlet.receiver ≠ other.receiver))
    (sink : σ) :
  mux.Fulfils hub sink
  := by
  have counts := counts_flush sound distinct sink
  refine ⟨bare_flush sound distinct sink, ?_, counts.attempted.length_eq, ?_,
    counts.sequence_eq, counts.frames_eq, counts.refused_eq⟩
  · apply waiting_foldl_flushOutlet sound
  · intro i entry h
    apply counts.attempted.bytes_eq h

end Flush

end Sinks

end Multiplexer

/-! ### Runs -/

/-- What a multiplexer is called for: to add a receiver, or to write what waits into a sink,
which may be another one each time. -/
inductive MultiplexerCall (D : Dialect) : Type 1
  | add (outlet : Outlet)
  | flush (hub : Hub D.Message) {σ : Type} (kind : ByteSink σ) (sink : σ)

namespace Multiplexer

/-- The messages that wait at a call. -/
def pendingAt (mux : Multiplexer) : MultiplexerCall D → Traffic D
  | .add _ => []
  | .flush hub _ _ => mux.pending hub

/-- The writes that a call makes, and the multiplexer afterwards. -/
def answer (mux : Multiplexer) : MultiplexerCall D → List Attempt × Multiplexer
  | .add outlet => ([], mux.add outlet)
  | .flush hub _ sink => (mux.attempts hub sink, (mux.flush hub sink).2.mux)

/-- The messages that wait at calls, in order. -/
def pendingAll : Multiplexer → List (MultiplexerCall D) → Traffic D
  | _, [] => []
  | mux, call :: calls => mux.pendingAt call ++ pendingAll (mux.answer call).2 calls

/-- The writes that calls make, in order, and the multiplexer afterwards. -/
def answerAll : Multiplexer → List (MultiplexerCall D) → List Attempt × Multiplexer
  | mux, [] => ([], mux)
  | mux, call :: calls =>
      let (first, mux) := mux.answer call
      let (others, mux) := mux.answerAll calls
      (first ++ others, mux)

/-- Every call of a run has a property together with the multiplexer before it. -/
def EveryCall (P : Multiplexer → MultiplexerCall D → Prop) :
    Multiplexer → List (MultiplexerCall D) → Prop
  | _, [] => True
  | mux, call :: calls => P mux call ∧ EveryCall P (mux.answer call).2 calls

/-- When a multiplexer is flushed, its receivers are different ones of a hub that came about by
its operations. -/
def Admits (mux : Multiplexer) : MultiplexerCall D → Prop
  | .add _ => True
  | .flush hub _ _ => hub.Reachable ∧
      mux.outlets.Pairwise (fun outlet other => outlet.receiver ≠ other.receiver)

/-- When a multiplexer is flushed, it does what it should. -/
def Meets (mux : Multiplexer) : MultiplexerCall D → Prop
  | .add _ => True
  | .flush hub _ sink => mux.Fulfils hub sink

/-- Only adding a receiver changes the receivers. -/
theorem outlets_answer_flush {mux : Multiplexer} {hub : Hub D.Message} {σ : Type}
    {kind : ByteSink σ} {sink : σ} (admits : mux.Admits (.flush hub kind sink)) :
  (mux.answer (.flush hub kind sink)).2.outlets = mux.outlets
  := outlets_flush admits.1.sound admits.2 sink

theorem counts_answer {mux : Multiplexer} {call : MultiplexerCall D}
    (admits : mux.Admits call) :
  Counts mux (mux.answer call).2 (mux.pendingAt call) (mux.answer call).1
  := by
  cases call with
  | add outlet => exact .nil rfl rfl rfl
  | flush hub kind sink => apply counts_flush admits.1.sound admits.2

theorem meets_of_admits {mux : Multiplexer} {call : MultiplexerCall D}
    (admits : mux.Admits call) :
  mux.Meets call
  := by
  cases call with
  | add outlet => trivial
  | flush hub kind sink => apply fulfils admits.1.sound admits.2

/-- Calls that are admitted count the messages that wait at each of them. -/
theorem counts_answerAll {mux : Multiplexer} {calls : List (MultiplexerCall D)}
    (admitted : EveryCall Admits mux calls) :
  Counts mux (mux.answerAll calls).2 (mux.pendingAll calls) (mux.answerAll calls).1
  := by
  induction calls generalizing mux with
  | nil => exact .nil rfl rfl rfl
  | cons call calls ih => apply (counts_answer admitted.1).append (ih admitted.2)

/-- Each of the calls that are admitted does what is asked of it. -/
theorem everyCall_meets {mux : Multiplexer} {calls : List (MultiplexerCall D)}
    (admitted : EveryCall Admits mux calls) :
  EveryCall Meets mux calls
  := by
  induction calls generalizing mux with
  | nil => trivial
  | cons call calls ih => exact ⟨meets_of_admits admitted.1, ih admitted.2⟩

/-- Whatever the sinks take and refuse, every flush of a run does what it should.  Over the
whole run there is one write for each message that waited, in order, and its bytes are those
of the message with the sequence number that the frames taken before leave.  The frames that
are taken carry consecutive sequence numbers, and the multiplexer counts all frames. -/
theorem attempts_answerAll (mux : Multiplexer) (calls : List (MultiplexerCall D))
    (admitted : EveryCall Admits mux calls) :
  let pending := mux.pendingAll calls
  let attempts := (mux.answerAll calls).1
  let after := (mux.answerAll calls).2
  EveryCall Meets mux calls ∧
    attempts.length = pending.length ∧
    (∀ i entry, pending[i]? = some entry →
      (attempts[i]?).map Attempt.bytes =
        some (Traffic.bytes
          (mux.sequence + UInt8.ofNat (Attempt.taken (attempts.take i))) entry)) ∧
    (∀ k attempt, (attempts.filter Attempt.isTaken)[k]? = some attempt →
      attempt.sequence? = some (mux.sequence + UInt8.ofNat k)) ∧
    after.sequence = mux.sequence + UInt8.ofNat (Attempt.taken attempts) ∧
    after.frames = mux.frames + UInt32.ofNat (Attempt.taken attempts) ∧
    after.refused = mux.refused + UInt32.ofNat (Attempt.refused attempts) ∧
    (mux.frames.toNat + mux.refused.toNat + attempts.length < UInt32.size →
      after.frames.toNat + after.refused.toNat =
        mux.frames.toNat + mux.refused.toNat + attempts.length)
  := by
  intro pending attempts after
  have counts := counts_answerAll admitted
  refine ⟨everyCall_meets admitted, counts.attempted.length_eq, ?_, ?_, counts.sequence_eq,
    counts.frames_eq, counts.refused_eq, counts.frames_add_refused⟩
  · intro i entry h
    apply counts.attempted.bytes_eq h
  · intro k attempt h
    apply counts.attempted.sequence?_taken h

end Multiplexer

/-- A sink that takes and refuses writes in a given pattern, and takes none when the pattern is
over. -/
structure FickleSink where
  /-- Whether the next writes are taken. -/
  pattern : List Bool
deriving DecidableEq, Repr

instance : ByteSink FickleSink where
  write? sink _ :=
    match sink.pattern with
    | true :: pattern => some ⟨pattern⟩
    | _ => none
  refuse sink _ := ⟨sink.pattern.tail⟩

namespace Multiplexer

/-- Of three messages the first is refused, and the next flush goes on with the sequence number
that the frames taken leave. -/
theorem attempts_answerAll_refusal :
  let test (n : UInt32) : flight.Message := ⟨.linkTest, ⟨n, Single.zero⟩⟩
  let opened := ({} : Hub flight.Message).openChannel.2
  let subscribed := (opened.subscribe ⟨0⟩ 4 (by decide)).2
  let hub := ((subscribed.send ⟨0⟩ (test 1)).send ⟨0⟩ (test 2)).send ⟨0⟩ (test 3)
  let calls : List (MultiplexerCall flight) :=
    [.add ⟨⟨0⟩, ⟨1⟩, ⟨1⟩⟩, .flush hub inferInstance (⟨[false, true, true]⟩ : FickleSink),
      .flush (subscribed.send ⟨0⟩ (test 4)) inferInstance ({} : GrowableSink)]
  EveryCall Admits {} calls ∧ EveryCall Meets {} calls ∧
    (answerAll {} calls).1.map Attempt.isTaken = [false, true, true, true] ∧
    (answerAll {} calls).2.sequence = 3
  := by
  intro test opened subscribed hub calls
  have reachable : subscribed.Reachable := by
    apply Hub.Reachable.subscribe
    apply Hub.Reachable.openChannel
    apply Hub.Reachable.empty
  have hreachable : hub.Reachable := by
    apply Hub.Reachable.sendCopies
    apply Hub.Reachable.sendCopies
    apply Hub.Reachable.sendCopies
    apply reachable
  have admitted : EveryCall Admits {} calls := by
    have hfirst : Admits
        (answer {} (.add ⟨⟨0⟩, ⟨1⟩, ⟨1⟩⟩ : MultiplexerCall flight)).2
        (.flush hub inferInstance (⟨[false, true, true]⟩ : FickleSink)) :=
      ⟨hreachable, List.pairwise_singleton _ _⟩
    refine ⟨trivial, hfirst, ⟨reachable.sendCopies _ _, ?_⟩, trivial⟩
    rw [outlets_answer_flush hfirst]
    apply List.pairwise_singleton
  have hpattern : (answerAll {} calls).1.map Attempt.isTaken = [false, true, true, true] := by
    decide +kernel
  obtain ⟨hmeets, -, -, -, hsequence, -⟩ := attempts_answerAll {} calls admitted
  refine ⟨admitted, hmeets, hpattern, ?_⟩
  rw [hsequence, Attempt.taken_eq_count, hpattern]
  rfl

end Multiplexer

end FlightBus

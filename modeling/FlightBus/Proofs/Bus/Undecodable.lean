import FlightBus.Proofs.Bus.Registration
import FlightBus.Proofs.Message.Decoding

/-!
# Frames that cannot be decoded

A frame passes three checks before the fields of its message are read.  The deframer compares
its length with the descriptor by which its message type is known, in one way for frames of
the first version and in another for those of the second.  The demultiplexer looks up the
binding of its routing key.  The format of the binding compares the message type and the
length once more.

The last check never fails.  The tables of a demultiplexer agree in every state, and a frame
is checked anew by what is known when its last byte arrives, also if its first bytes were
there before the binding.  So a frame that is handed to a binding is undecodable only if the
reader of the bound format finds a value in a field that the field may not hold.
-/

namespace FlightBus

variable {D : Dialect}

/-! ### Frames that a format admits -/

/-- A frame passes the checks in front of the reader of a format: it is of the message type,
and its payload is not longer than the full payload. -/
structure Format.Admits {α : Type} (format : Format α) (frame : Frame) : Prop where
  message_eq : frame.message = format.id
  length_le : frame.payload.bytes.length ≤ format.maxLength

namespace Format.Admits

variable {α : Type} {format : Format α} {frame : Frame}

/-- Decoding a frame that is admitted comes to what the reader of the format comes to. -/
theorem decode_eq (admits : format.Admits frame) :
  format.decode frame = (format.parse frame.payload.bytes).mapError .payload
  := decode_of_length_le admits.message_eq admits.length_le

theorem decode_ne_otherType (admits : format.Admits frame) :
  format.decode frame ≠ .error .otherType
  := by
  rw [admits.decode_eq]
  cases format.parse frame.payload.bytes with
  | error reason => simp [Except.mapError]
  | ok value => simp [Except.mapError]

theorem decode_eq_error_iff (admits : format.Admits frame) (reason : PayloadError) :
  format.decode frame = .error (.payload reason) ↔
    format.parse frame.payload.bytes = .error reason
  := by
  rw [admits.decode_eq]
  cases format.parse frame.payload.bytes with
  | error other => simp [Except.mapError]
  | ok value => simp [Except.mapError]

/-- When the reader of the format reports no length of a payload that is not too long, decoding
fails on the value of a field at most. -/
theorem eq_fieldValue (admits : format.Admits frame)
    (h : ∀ payload : List UInt8, payload.length ≤ format.maxLength →
      format.parse payload ≠ .error .length)
    (failure : DecodeFailure) (hdecode : format.decode frame = .error failure) :
  failure = .payload .fieldValue
  := by
  cases failure with
  | otherType => cases admits.decode_ne_otherType hdecode
  | payload reason =>
      have hparse := (admits.decode_eq_error_iff reason).mp hdecode
      cases reason with
      | fieldValue => rfl
      | length => cases h _ admits.length_le hparse

/-- A frame that an exact format admits holds a value, unless a field holds one that it may
not hold. -/
theorem decode_cases {foreign : List UInt8 → Prop} (admits : format.Admits frame)
    (hexact : format.Exact foreign) :
  (∃ value, format.decode frame = .ok value) ∨
    foreign (format.continued frame.payload.bytes) ∧
      format.decode frame = .error (.payload .fieldValue)
  := by
  rw [admits.decode_eq]
  rcases hexact.parse_cases admits.length_le with ⟨hforeign, hparse⟩ | ⟨value, -, -, hparse⟩
  · right
    rw [hparse]
    exact ⟨hforeign, rfl⟩
  · left
    rw [hparse]
    exact ⟨value, rfl⟩

end Format.Admits

/-- A frame that conforms to a descriptor is not longer than the full payload. -/
theorem Frame.Conforms.length_le {descriptor : Descriptor} {frame : Frame}
    (conforms : frame.Conforms descriptor)
    (bounded : descriptor.minLength ≤ descriptor.maxLength) :
  frame.payload.bytes.length ≤ descriptor.maxLength
  := by
  rw [Conforms] at conforms
  cases hversion : frame.version with
  | v1 =>
      rw [hversion] at conforms
      obtain ⟨-, -, -, -, hlength⟩ := conforms
      rw [hlength]
      apply bounded
  | v2 =>
      rw [hversion] at conforms
      apply conforms.2.2

/-! ### Frames that are found -/

/-- A frame that a drain finds conforms to the descriptor by which its message type is
known. -/
theorem conforms_of_mem_drain {lookup : Lookup} {bytes : List UInt8} {frame : Frame}
    (h : .frame frame ∈ (drain lookup bytes).1) :
  ∃ descriptor, lookup frame.message = some descriptor ∧ frame.Conforms descriptor
  := by
  induction bytes using search_induction lookup with
  | stuck bytes stuck =>
      rw [stuck.drain_eq] at h
      cases h
  | step bytes finding rest step ih =>
      rw [step.drain_eq, List.mem_append] at h
      rcases h with hfirst | hrest
      · rw [Option.mem_toList] at hfirst
        cases hfirst
        cases step with
        | found marker verdict => apply conforms_of_complete verdict
      · apply ih hrest

/-- A frame that is found among bytes that are pushed conforms to the descriptor by which its
message type is known then, also if some of its bytes were there before. -/
theorem Deframer.conforms_of_mem_pushAll {lookup : Lookup} {bytes : List UInt8}
    {deframer : Deframer} {frame : Frame} (h : .frame frame ∈ (deframer.pushAll lookup bytes).1) :
  ∃ descriptor, lookup frame.message = some descriptor ∧ frame.Conforms descriptor
  := by
  have hdrain := congrArg Prod.fst (drain_append_pushAll lookup bytes deframer)
  apply conforms_of_mem_drain
  rw [hdrain]
  apply List.mem_append_left _ h

/-! ### Frames that are refused -/

/-- The reader of the bound format refuses the payload of a frame. -/
def RoutedFrame.isRefused (routed : RoutedFrame D) : Bool :=
  routed.binding?.any fun binding =>
    ((D.format binding.kind).parse routed.frame.payload.bytes).toOption.isNone

namespace RoutedFrame

variable {routed : RoutedFrame D} {binding : Binding D}

/-- A frame that is admitted is undecodable if and only if its payload is refused. -/
theorem class_eq_undecodable_iff (h : ∀ binding, routed.binding? = some binding →
    (D.format binding.kind).Admits routed.frame) :
  routed.class = .undecodable ↔ routed.isRefused = true
  := by
  rw [RoutedFrame.class, isRefused]
  cases hbinding : routed.binding? with
  | none => simp
  | some binding =>
      dsimp only [Binding.message?, Option.any_some]
      rw [(h binding hbinding).decode_eq]
      cases (D.format binding.kind).parse routed.frame.payload.bytes with
      | error reason => simp [Except.mapError, Except.toOption]
      | ok value => simp [Except.mapError, Except.toOption]

theorem class_of_decode_eq_ok (hbinding : routed.binding? = some binding)
    {value : D.Value binding.kind} (h : (D.format binding.kind).decode routed.frame = .ok value) :
  routed.class = .dispatched
  := by
  rw [RoutedFrame.class, hbinding]
  dsimp only [Binding.message?]
  rw [h]
  rfl

end RoutedFrame

namespace Demultiplexer

variable {demux : Demultiplexer D}

/-- A frame that is handed to a binding is admitted by the bound format. -/
theorem Coherent.admits_of_mem_routed (coherent : demux.Coherent) {bytes : List UInt8}
    {routed : RoutedFrame D} (h : routed ∈ demux.routed bytes) {binding : Binding D}
    (hbinding : routed.binding? = some binding)
    (bounded : (D.format binding.kind).minLength ≤ (D.format binding.kind).maxLength) :
  (D.format binding.kind).Admits routed.frame
  := by
  obtain ⟨frame, hframe, rfl⟩ := List.mem_map.mp h
  obtain ⟨finding, hfinding, hfound⟩ := List.mem_filterMap.mp hframe
  cases finding with
  | rejected cause => cases hfound
  | frame found =>
      cases hfound
      obtain ⟨descriptor, hknown, hconforms⟩ := Deframer.conforms_of_mem_pushAll hfinding
      -- What is known of the message type of a binding is the descriptor of its format.
      have hbound := coherent.known_of_binding hbinding
      cases hbound.symm.trans hknown
      constructor
      · apply coherent.message_eq _ _ hbinding
      · apply hconforms.length_le bounded

/-! ### Runs -/

/-- A frame is handed to a binding that is still there after the calls. -/
theorem binding?_of_mem_routedAll {input : UInt8} {calls : List (DemultiplexerCall D)}
    {routed : RoutedFrame D} (h : routed ∈ routedAll { input } calls) {binding : Binding D}
    (hbinding : routed.binding? = some binding) :
  (answerAll { input } calls).2.binding? routed.frame.key = some binding
  := by
  have accounts := (accountsFor_new input).answerAll calls
  rcases accounts.binding?_eq h with hnone | hsame
  · rw [hnone] at hbinding
    cases hbinding
  · rw [← hsame, hbinding]

theorem Coherent.admits_of_mem_routedAll (coherent : demux.Coherent)
    {calls : List (DemultiplexerCall D)} {routed : RoutedFrame D}
    (h : routed ∈ demux.routedAll calls) {binding : Binding D}
    (hbinding : routed.binding? = some binding)
    (bounded : (D.format binding.kind).minLength ≤ (D.format binding.kind).maxLength) :
  (D.format binding.kind).Admits routed.frame
  := by
  induction calls generalizing demux with
  | nil => cases h
  | cons call calls ih =>
      rw [routedAll, List.mem_append] at h
      rcases h with hfirst | hothers
      · apply coherent.admits_of_mem_routed hfirst hbinding bounded
      · apply ih (coherent.answer call) hothers

/-! ### The flight dialect -/

section Flight

variable {E : Dialect} {input : UInt8} {calls : List (DemultiplexerCall (flight.sum E))}
  {routed : RoutedFrame (flight.sum E)} {binding : Binding (flight.sum E)} {kind : FlightKind}

/-- What becomes of a frame that is handed to a binding of a flight message: it is decoded, or
it has a foreign byte in the place of an enumeration. -/
theorem decode_cases_of_flight (h : routed ∈ routedAll { input } calls)
    (hbinding : routed.binding? = some binding) (hkind : binding.kind = .inl kind) :
  routed.class = .dispatched ∨
    flight.foreign kind ((flight.format kind).continued routed.frame.payload.bytes) ∧
      ((flight.sum E).format binding.kind).decode routed.frame =
        .error (.payload .fieldValue)
  := by
  obtain ⟨_, channel⟩ := binding
  subst hkind
  have bounded : (flight.format kind).minLength ≤ (flight.format kind).maxLength := by
    cases kind <;> decide
  have admits := (coherent_new input).admits_of_mem_routedAll h hbinding bounded
  apply (admits.decode_cases (flight.exact_format kind)).imp_left
  rintro ⟨value, hvalue⟩
  apply RoutedFrame.class_of_decode_eq_ok hbinding hvalue

/-- A flight message without an enumeration is decoded from every frame that is handed to its
binding. -/
theorem class_of_flight (h : routed ∈ routedAll { input } calls)
    (hbinding : routed.binding? = some binding)
    (hkind : binding.kind = .inl .linkTest ∨ binding.kind = .inl .servo) :
  routed.class = .dispatched
  := by
  rcases hkind with hkind | hkind
  · rcases decode_cases_of_flight h hbinding hkind with hclass | ⟨hforeign, -⟩
    · apply hclass
    · cases hforeign
  · rcases decode_cases_of_flight h hbinding hkind with hclass | ⟨hforeign, -⟩
    · apply hclass
    · cases hforeign

/-- A demultiplexer that binds only flight messages without an enumeration finds no frame
undecodable. -/
theorem undecodable_eq_zero (plain : ∀ key binding,
    (answerAll { input } calls).2.binding? key = some binding →
      binding.kind = .inl .linkTest ∨ binding.kind = .inl .servo) :
  (answerAll { input } calls).2.counts.undecodable = 0
  := by
  have accounts := (accountsFor_new input).answerAll calls
  have hcount := accounts.counts_eq .undecodable
  rw [List.nil_append, List.countP_eq_zero.mpr] at hcount
  · apply hcount
  · intro routed hrouted hclass
    have hundecodable := of_decide_eq_true hclass
    cases hbinding : routed.binding? with
    | none =>
        rw [RoutedFrame.class, hbinding] at hundecodable
        cases hundecodable
    | some binding =>
        have hkind := plain _ _ (binding?_of_mem_routedAll hrouted hbinding)
        rw [class_of_flight hrouted hbinding hkind] at hundecodable
        cases hundecodable

end Flight

/-! ### Undecodable frames -/

/-- A frame that is handed to a binding is undecodable only if the reader of the bound format
refuses its payload.  It is neither of another message type nor longer than the format allows,
in whichever version it is framed and whichever bytes there were before the binding.  So the
frames that are counted as undecodable are those that are refused.  A flight message is
refused only if it has a foreign byte in the place of an enumeration, and the messages without
one are never undecodable. -/
theorem undecodable_of_answerAll (input : UInt8) (calls : List (DemultiplexerCall D))
    (bounded : ∀ key binding, (answerAll { input } calls).2.binding? key = some binding →
      (D.format binding.kind).minLength ≤ (D.format binding.kind).maxLength) :
  let frames := routedAll { input } calls
  (∀ routed ∈ frames, ∀ binding, routed.binding? = some binding →
    (D.format binding.kind).Admits routed.frame ∧
      (D.format binding.kind).decode routed.frame ≠ .error .otherType ∧
      (∀ reason, (D.format binding.kind).decode routed.frame = .error (.payload reason) ↔
        (D.format binding.kind).parse routed.frame.payload.bytes = .error reason) ∧
      ((∀ payload : List UInt8, payload.length ≤ (D.format binding.kind).maxLength →
          (D.format binding.kind).parse payload ≠ .error .length) →
        ∀ failure, (D.format binding.kind).decode routed.frame = .error failure →
          failure = .payload .fieldValue)) ∧
    (answerAll { input } calls).2.counts.undecodable =
      UInt32.ofNat (frames.countP RoutedFrame.isRefused) ∧
    ∀ (E : Dialect) (calls : List (DemultiplexerCall (flight.sum E))),
      (∀ routed ∈ routedAll { input } calls, ∀ binding kind,
        routed.binding? = some binding → binding.kind = .inl kind →
          (routed.class = .dispatched ∨
            flight.foreign kind
                ((flight.format kind).continued routed.frame.payload.bytes) ∧
              ((flight.sum E).format binding.kind).decode routed.frame =
                .error (.payload .fieldValue)) ∧
          (kind = .linkTest ∨ kind = .servo → routed.class = .dispatched)) ∧
        ((∀ key binding, (answerAll { input } calls).2.binding? key = some binding →
            binding.kind = .inl .linkTest ∨ binding.kind = .inl .servo) →
          (answerAll { input } calls).2.counts.undecodable = 0)
  := by
  intro frames
  have admits : ∀ routed ∈ frames, ∀ binding, routed.binding? = some binding →
      (D.format binding.kind).Admits routed.frame := by
    intro routed hrouted binding hbinding
    apply (coherent_new input).admits_of_mem_routedAll hrouted hbinding
    apply bounded _ _ (binding?_of_mem_routedAll hrouted hbinding)
  refine ⟨?_, ?_, ?_⟩
  · intro routed hrouted binding hbinding
    have hadmits := admits routed hrouted binding hbinding
    exact ⟨hadmits, hadmits.decode_ne_otherType, hadmits.decode_eq_error_iff,
      hadmits.eq_fieldValue⟩
  · have accounts := (accountsFor_new input).answerAll calls
    have hcount := accounts.counts_eq .undecodable
    rw [List.nil_append] at hcount
    refine hcount.trans (congrArg UInt32.ofNat ?_)
    apply List.countP_congr
    intro routed hrouted
    rw [decide_eq_true_iff]
    apply RoutedFrame.class_eq_undecodable_iff (admits routed hrouted)
  · intro E calls
    refine ⟨?_, undecodable_eq_zero⟩
    intro routed hrouted binding kind hbinding hkind
    refine ⟨decode_cases_of_flight hrouted hbinding hkind, ?_⟩
    intro hplain
    apply class_of_flight hrouted hbinding
    rw [hkind]
    exact hplain.imp (congrArg Sum.inl) (congrArg Sum.inl)

/-- A heartbeat of the first version with a status that there is not, the first five bytes of
which were there before the binding, is handed to the binding and refused. -/
theorem undecodable_of_answerAll_heartbeat :
  let calls : List (DemultiplexerCall flight) :=
    [.consume [[0xfe, 9, 0, 1, 1]], .bind .heartbeat ⟨1⟩ ⟨1⟩ ⟨0⟩,
      .consume [[0, 0, 0, 0, 0, 2, 3, 81, 9, 3, 2, 34]]]
  (∀ key binding, (answerAll { input := 0 } calls).2.binding? key = some binding →
    (flight.format binding.kind).minLength ≤ (flight.format binding.kind).maxLength) ∧
    (answerAll { input := 0 } calls).2.counts.undecodable = 1 ∧
    UInt32.ofNat ((routedAll { input := 0 } calls).countP RoutedFrame.isRefused) = 1
  := by
  intro calls
  have bounded : ∀ key binding, (answerAll { input := 0 } calls).2.binding? key = some binding →
      (flight.format binding.kind).minLength ≤ (flight.format binding.kind).maxLength := by
    intro key binding _
    cases binding.kind <;> decide
  have hcount : (answerAll { input := 0 } calls).2.counts.undecodable = 1 := by
    decide +kernel
  refine ⟨bounded, hcount, ?_⟩
  rw [← (undecodable_of_answerAll 0 calls bounded).2.1]
  apply hcount

end Demultiplexer

end FlightBus

import FlightBus.Proofs.Bus.Accounting

/-!
# Registration of bindings

A demultiplexer keeps two tables, of bindings by routing key and of descriptors by message
type, and binding a routing key enters something into both.  Here it is done step by step on a
state that outlasts a failure, so that what was entered before a failure would stay.

Nothing stays.  A routing key is bound if it is not bound yet and its message type is not
known by another descriptor, and then one binding is added and all else is kept.  Otherwise
the fault says which of the two it was and carries the routing key, and the demultiplexer is
as it was.  So the message types that are known are those of the bindings at any time, by
their descriptors.
-/

namespace FlightBus

namespace Demultiplexer

variable {D : Dialect} {demux after : Demultiplexer D} {kind : D.Kind} {system : SystemId}
  {component : ComponentId} {channel : ChannelId}

/-! ### Binding at once -/

/-- The routing key of a message type from a component of a system. -/
abbrev keyOf (kind : D.Kind) (system : SystemId) (component : ComponentId) : RoutingKey :=
  ⟨(D.format kind).id, system, component⟩

theorem conflicts_iff (demux : Demultiplexer D) (descriptor : Descriptor) :
  demux.conflicts descriptor = true ↔
    ∃ known, demux.known.find? descriptor.id = some known ∧ known ≠ descriptor
  := by
  rw [conflicts]
  cases demux.known.find? descriptor.id with
  | none => simp
  | some known => simp

theorem bind_of_conflicts (h : demux.conflicts (D.format kind).descriptor = true)
    (system : SystemId) (component : ComponentId) (channel : ChannelId) :
  demux.bind kind system component channel =
    .error ⟨.invalidValue, keyOf kind system component⟩
  := by
  rw [Demultiplexer.bind, bindFault?, if_pos h]

theorem bind_of_bound (h : demux.conflicts (D.format kind).descriptor = false)
    (hbound : (demux.binding? (keyOf kind system component)).isSome) (channel : ChannelId) :
  demux.bind kind system component channel =
    .error ⟨.duplicateBinding, keyOf kind system component⟩
  := by
  rw [Demultiplexer.bind, bindFault?, if_neg (by simp [h]), if_pos hbound]

theorem bind_of_free (h : demux.conflicts (D.format kind).descriptor = false)
    (hfree : demux.binding? (keyOf kind system component) = none) (channel : ChannelId) :
  demux.bind kind system component channel =
    .ok { demux with
      known := demux.known.insert (D.format kind).descriptor
      bindings := (keyOf kind system component, ⟨kind, channel⟩) :: demux.bindings }
  := by
  have hnot : ¬ (demux.binding? (keyOf kind system component)).isSome := by
    rw [hfree]
    simp
  rw [Demultiplexer.bind, bindFault?, if_neg (by simp [h]), if_neg hnot]

/-- What is bound after a routing key was bound. -/
theorem binding?_of_bind (h : demux.bind kind system component channel = .ok after)
    (key : RoutingKey) :
  after.binding? key =
    if key = keyOf kind system component then some ⟨kind, channel⟩ else demux.binding? key
  := by
  obtain ⟨-, rfl⟩ := bind_eq_ok h
  rw [binding?, List.lookup_cons]
  split
  · rename_i hkey
    rw [if_pos (eq_of_beq hkey)]
  · rename_i hkey
    rw [if_neg (ne_of_beq_false hkey), binding?]

/-- What is known after a routing key was bound. -/
theorem find?_of_bind (h : demux.bind kind system component channel = .ok after)
    (id : MessageId) :
  after.known.find? id =
    if id = (D.format kind).id then some (D.format kind).descriptor else demux.known.find? id
  := by
  obtain ⟨-, rfl⟩ := bind_eq_ok h
  split
  · rename_i hid
    rw [hid]
    apply DescriptorTable.find?_insert_self
  · rename_i hid
    apply DescriptorTable.find?_insert_of_ne demux.known hid

/-- What binding a routing key changes: there is one more binding, its descriptor is known, and
all else is as it was. -/
theorem bind_adds (h : demux.bind kind system component channel = .ok after) :
  let key := keyOf kind system component
  after.binding? key = some ⟨kind, channel⟩ ∧
    (∀ other, other ≠ key → after.binding? other = demux.binding? other) ∧
    after.bindingCount = demux.bindingCount + 1 ∧
    after.known.find? key.message = some (D.format kind).descriptor ∧
    (∀ id, id ≠ key.message → after.known.find? id = demux.known.find? id) ∧
    after = { demux with known := after.known, bindings := after.bindings }
  := by
  intro key
  obtain ⟨-, hfields⟩ := bind_eq_ok h
  refine ⟨?_, ?_, ?_, ?_, ?_, ?_⟩
  · rw [binding?_of_bind h, if_pos rfl]
  · intro other hother
    rw [binding?_of_bind h, if_neg hother]
  · rw [hfields]
    rfl
  · rw [find?_of_bind h, if_pos rfl]
  · intro id hid
    rw [find?_of_bind h, if_neg hid]
  · rw [hfields]

/-! ### Binding step by step -/

/-- Computations on a demultiplexer that may fail.  What was done before a failure stays. -/
abbrev Steps (D : Dialect) := ExceptT (Fault .key) (StateM (Demultiplexer D))

/-- Enters a binding, and then the descriptor of its message type. -/
def enter (key : RoutingKey) (binding : Binding D) : Steps D Unit := do
  modify fun demux => { demux with bindings := (key, binding) :: demux.bindings }
  modify fun demux =>
    { demux with known := demux.known.insert (D.format binding.kind).descriptor }

/-- Looks for another descriptor of a message type, then for a binding of the routing key, and
enters what is bound if there is neither. -/
def register (kind : D.Kind) (system : SystemId) (component : ComponentId)
    (channel : ChannelId) : Steps D Unit := do
  let key := keyOf kind system component
  let demux ← get
  if demux.conflicts (D.format kind).descriptor then
    throw ⟨.invalidValue, key⟩
  else if (demux.binding? key).isSome then
    throw ⟨.duplicateBinding, key⟩
  else
    enter key ⟨kind, channel⟩

/-- What a registration comes to, and the demultiplexer after it. -/
def registered (demux : Demultiplexer D) (kind : D.Kind) (system : SystemId)
    (component : ComponentId) (channel : ChannelId) :
    Except (Fault .key) Unit × Demultiplexer D :=
  (register kind system component channel).run.run demux

/-- Binding step by step is binding at once, and a failure leaves the demultiplexer as it
was. -/
theorem registered_eq (demux : Demultiplexer D) (kind : D.Kind) (system : SystemId)
    (component : ComponentId) (channel : ChannelId) :
  demux.registered kind system component channel =
    match demux.bind kind system component channel with
    | .error fault => (.error fault, demux)
    | .ok after => (.ok (), after)
  := by
  let key := keyOf kind system component
  have hrun : demux.registered kind system component channel =
      (if demux.conflicts (D.format kind).descriptor then
        (throw ⟨.invalidValue, key⟩ : Steps D Unit)
      else if (demux.binding? key).isSome then
        throw ⟨.duplicateBinding, key⟩
      else
        enter key ⟨kind, channel⟩).run.run demux := rfl
  rw [hrun]
  cases hconflict : demux.conflicts (D.format kind).descriptor with
  | true =>
      rw [bind_of_conflicts hconflict]
      rfl
  | false =>
      cases hbinding : demux.binding? key with
      | none =>
          rw [bind_of_free hconflict hbinding]
          rfl
      | some binding =>
          rw [bind_of_bound hconflict (by rw [hbinding]; rfl)]
          rfl

/-- What a registration can come to.  A conflict is found before a binding. -/
theorem registered_cases (demux : Demultiplexer D) (kind : D.Kind) (system : SystemId)
    (component : ComponentId) (channel : ChannelId) :
  let key := keyOf kind system component
  let conflict := ∃ known, demux.known.find? key.message = some known ∧
    known ≠ (D.format kind).descriptor
  let registered := demux.registered kind system component channel
  (conflict ∧ registered = (.error ⟨.invalidValue, key⟩, demux)) ∨
    (¬ conflict ∧ demux.binding? key ≠ none ∧
      registered = (.error ⟨.duplicateBinding, key⟩, demux)) ∨
    (¬ conflict ∧ demux.binding? key = none ∧
      ∃ after, demux.bind kind system component channel = .ok after ∧
        registered = (.ok (), after))
  := by
  intro key conflict registered
  have hconflict : demux.conflicts (D.format kind).descriptor = true ↔ conflict :=
    demux.conflicts_iff _
  have hregistered : registered = _ := demux.registered_eq kind system component channel
  rw [hregistered]
  cases h : demux.conflicts (D.format kind).descriptor with
  | true =>
      left
      rw [bind_of_conflicts h]
      exact ⟨hconflict.mp h, rfl⟩
  | false =>
      right
      have hnot : ¬ conflict := by
        rw [← hconflict, h]
        simp
      cases hbinding : demux.binding? key with
      | none =>
          right
          rw [bind_of_free h hbinding]
          exact ⟨hnot, rfl, _, rfl, rfl⟩
      | some binding =>
          left
          rw [bind_of_bound h (by rw [hbinding]; rfl)]
          exact ⟨hnot, by simp, rfl⟩

/-- A registration succeeds if the routing key is free and its message type does not conflict
with what is known, and its fault says which of the two it is otherwise. -/
theorem fst_registered_iff (demux : Demultiplexer D) (kind : D.Kind) (system : SystemId)
    (component : ComponentId) (channel : ChannelId) :
  let key := keyOf kind system component
  let conflict := ∃ known, demux.known.find? key.message = some known ∧
    known ≠ (D.format kind).descriptor
  let outcome := (demux.registered kind system component channel).1
  (outcome = .ok () ↔ demux.binding? key = none ∧ ¬ conflict) ∧
    (outcome = .error ⟨.invalidValue, key⟩ ↔ conflict) ∧
    (outcome = .error ⟨.duplicateBinding, key⟩ ↔ demux.binding? key ≠ none ∧ ¬ conflict)
  := by
  intro key conflict outcome
  rcases demux.registered_cases kind system component channel with
    ⟨hconflict, hregistered⟩ | ⟨hnot, hbound, hregistered⟩ | ⟨hnot, hfree, _, -, hregistered⟩
  · have houtcome : outcome = .error ⟨.invalidValue, key⟩ := congrArg Prod.fst hregistered
    rw [houtcome]
    refine ⟨iff_of_false (by simp) ?_, iff_of_true rfl hconflict, iff_of_false (by simp) ?_⟩
    · intro h
      exact h.2 hconflict
    · intro h
      exact h.2 hconflict
  · have houtcome : outcome = .error ⟨.duplicateBinding, key⟩ := congrArg Prod.fst hregistered
    rw [houtcome]
    refine ⟨iff_of_false (by simp) ?_, iff_of_false (by simp) hnot,
      iff_of_true rfl ⟨hbound, hnot⟩⟩
    intro h
    exact hbound h.1
  · have houtcome : outcome = .ok () := congrArg Prod.fst hregistered
    rw [houtcome]
    refine ⟨iff_of_true rfl ⟨hfree, hnot⟩, iff_of_false (by simp) hnot,
      iff_of_false (by simp) ?_⟩
    intro h
    exact h.1 hfree

/-- A registration that fails leaves the demultiplexer as it was. -/
theorem snd_registered_of_ne_ok (h : (demux.registered kind system component channel).1 ≠ .ok ()) :
  (demux.registered kind system component channel).2 = demux
  := by
  rw [registered_eq] at h ⊢
  cases hbind : demux.bind kind system component channel with
  | error fault => rfl
  | ok after =>
      rw [hbind] at h
      cases h rfl

/-- What binding at once returns is what a registration comes to. -/
theorem bind_eq_registered (demux : Demultiplexer D) (kind : D.Kind) (system : SystemId)
    (component : ComponentId) (channel : ChannelId) :
  demux.bind kind system component channel =
    (demux.registered kind system component channel).1.map
      (fun _ => (demux.registered kind system component channel).2)
  := by
  rw [registered_eq]
  cases demux.bind kind system component channel with
  | error fault => rfl
  | ok after => rfl

theorem bind_eq_ok_iff :
  demux.bind kind system component channel =
      .ok (demux.registered kind system component channel).2 ↔
    (demux.registered kind system component channel).1 = .ok ()
  := by
  rw [bind_eq_registered]
  cases (demux.registered kind system component channel).1 with
  | error fault => simp [Except.map]
  | ok done => simp [Except.map]

theorem bind_eq_error_iff {fault : Fault .key} :
  demux.bind kind system component channel = .error fault ↔
    (demux.registered kind system component channel).1 = .error fault
  := by
  rw [bind_eq_registered]
  cases (demux.registered kind system component channel).1 with
  | error fault => simp [Except.map]
  | ok done => simp [Except.map]

/-- A demultiplexer that is asked for a binding does what a registration does. -/
theorem answer_bind_eq_registered (demux : Demultiplexer D) (kind : D.Kind)
    (system : SystemId) (component : ComponentId) (channel : ChannelId) :
  (demux.answer (.bind kind system component channel)).2 =
    (demux.registered kind system component channel).2
  := by
  rw [answer, registered_eq]
  cases demux.bind kind system component channel with
  | error fault => rfl
  | ok after => rfl

/-! ### Coherent tables -/

/-- The tables of a demultiplexer agree: there is one binding for a routing key, the routing
key has the message type that is bound, and the descriptors that are known are those of the
types that are bound. -/
structure Coherent (demux : Demultiplexer D) : Prop where
  keys_nodup : (demux.bindings.map Prod.fst).Nodup
  message_eq : ∀ key binding, demux.binding? key = some binding →
    key.message = (D.format binding.kind).id
  known_iff : ∀ id descriptor, demux.known.find? id = some descriptor ↔
    ∃ key binding, demux.binding? key = some binding ∧ key.message = id ∧
      (D.format binding.kind).descriptor = descriptor

theorem coherent_new (input : UInt8) :
  ({ input } : Demultiplexer D).Coherent
  := by
  constructor
  · apply List.nodup_nil
  · intro key binding h
    cases h
  · intro id descriptor
    constructor
    · intro h
      cases h
    · rintro ⟨key, binding, h, -, -⟩
      cases h

/-- The descriptor of what is bound is the one that is known. -/
theorem Coherent.known_of_binding (coherent : demux.Coherent) {key : RoutingKey}
    {binding : Binding D} (h : demux.binding? key = some binding) :
  demux.known.find? key.message = some (D.format binding.kind).descriptor
  := by
  apply (coherent.known_iff _ _).mpr
  exact ⟨key, binding, h, rfl, rfl⟩

theorem Coherent.bind (coherent : demux.Coherent)
    (h : demux.bind kind system component channel = .ok after) :
  after.Coherent
  := by
  have hfree := binding?_eq_none_of_bind h
  obtain ⟨hknown, hfields⟩ := bind_eq_ok h
  constructor
  · rw [hfields]
    apply List.nodup_cons.mpr
    refine ⟨?_, coherent.keys_nodup⟩
    intro hmem
    obtain ⟨entry, hentry, hkey⟩ := List.mem_map.mp hmem
    have hother := List.lookup_eq_none_iff.mp hfree entry hentry
    rw [hkey] at hother
    simp at hother
  · intro key binding hbinding
    rw [binding?_of_bind h] at hbinding
    split at hbinding
    · rename_i hkey
      cases hbinding
      rw [hkey]
    · apply coherent.message_eq key binding hbinding
  · intro id descriptor
    rw [find?_of_bind h]
    split
    · rename_i hid
      constructor
      · intro hsame
        refine ⟨keyOf kind system component, ⟨kind, channel⟩, ?_, hid.symm,
          Option.some.inj hsame⟩
        rw [binding?_of_bind h, if_pos rfl]
      · rintro ⟨key, binding, hbinding, hmessage, rfl⟩
        rw [binding?_of_bind h] at hbinding
        split at hbinding
        · cases hbinding
          rfl
        · -- What was bound to this message type before is known by the same descriptor.
          have hbefore := coherent.known_of_binding hbinding
          rw [hmessage, hid] at hbefore
          rw [hknown _ hbefore]
    · rename_i hid
      rw [coherent.known_iff]
      have hkeep (key : RoutingKey) (hmessage : key.message = id) :
          after.binding? key = demux.binding? key := by
        rw [binding?_of_bind h, if_neg]
        intro hkey
        apply hid
        rw [← hmessage, hkey]
      constructor
      · rintro ⟨key, binding, hbinding, hmessage, hdescriptor⟩
        exact ⟨key, binding, (hkeep key hmessage).trans hbinding, hmessage, hdescriptor⟩
      · rintro ⟨key, binding, hbinding, hmessage, hdescriptor⟩
        exact ⟨key, binding, (hkeep key hmessage).symm.trans hbinding, hmessage, hdescriptor⟩

theorem Coherent.answer (coherent : demux.Coherent) (call : DemultiplexerCall D) :
  (demux.answer call).2.Coherent
  := by
  cases call with
  | bind kind system component channel =>
      rw [Demultiplexer.answer]
      split
      · apply coherent
      · rename_i after h
        apply coherent.bind h
  | consume reads =>
      rw [Demultiplexer.answer, consumeReads_eq, consumeBytes_eq]
      exact ⟨coherent.keys_nodup, coherent.message_eq, coherent.known_iff⟩

theorem Coherent.answerAll (coherent : demux.Coherent) (calls : List (DemultiplexerCall D)) :
  (demux.answerAll calls).2.Coherent
  := by
  induction calls generalizing demux with
  | nil => apply coherent
  | cons call calls ih => apply ih (coherent.answer call)

/-! ### Registrations -/

/-- Whatever a new demultiplexer was asked for, its tables agree, and a registration succeeds
exactly if the routing key is not bound and the message type is not known by another
descriptor.  If it is known by another one, the registration fails for an invalid value, and
otherwise, if the routing key is bound, for a duplicate binding, and in either case the fault
carries the routing key and the demultiplexer is as it was.  A success adds one binding and
the descriptor of its message type, and keeps all else.  Binding at once returns the
demultiplexer after the registration, or its fault. -/
theorem registration_atomic (input : UInt8) (calls : List (DemultiplexerCall D))
    (kind : D.Kind) (system : SystemId) (component : ComponentId) (channel : ChannelId) :
  let demux := (answerAll { input } calls).2
  let key := keyOf kind system component
  let descriptor := (D.format kind).descriptor
  let conflict := ∃ known, demux.known.find? key.message = some known ∧ known ≠ descriptor
  let bound := demux.bind kind system component channel
  let outcome := (demux.registered kind system component channel).1
  let after := (demux.registered kind system component channel).2
  demux.Coherent ∧
    (bound = .ok after ↔ demux.binding? key = none ∧ ¬ conflict) ∧
    (bound = .error ⟨.invalidValue, key⟩ ↔ conflict) ∧
    (bound = .error ⟨.duplicateBinding, key⟩ ↔ demux.binding? key ≠ none ∧ ¬ conflict) ∧
    bound = outcome.map (fun _ => after) ∧
    (outcome = .ok () ↔ demux.binding? key = none ∧ ¬ conflict) ∧
    (outcome = .error ⟨.invalidValue, key⟩ ↔ conflict) ∧
    (outcome = .error ⟨.duplicateBinding, key⟩ ↔ demux.binding? key ≠ none ∧ ¬ conflict) ∧
    (outcome ≠ .ok () → after = demux) ∧
    (outcome = .ok () →
      after.binding? key = some ⟨kind, channel⟩ ∧
        (∀ other, other ≠ key → after.binding? other = demux.binding? other) ∧
        after.bindingCount = demux.bindingCount + 1 ∧
        after.known.find? key.message = some descriptor ∧
        (∀ id, id ≠ key.message → after.known.find? id = demux.known.find? id) ∧
        after = { demux with known := after.known, bindings := after.bindings } ∧
        after.Coherent) ∧
    (demux.answer (.bind kind system component channel)).2 = after
  := by
  intro demux key descriptor conflict bound outcome after
  have coherent : demux.Coherent := (coherent_new input).answerAll calls
  obtain ⟨hok, hinvalid, hduplicate⟩ :=
    demux.fst_registered_iff kind system component channel
  refine ⟨coherent, bind_eq_ok_iff.trans hok, bind_eq_error_iff.trans hinvalid,
    bind_eq_error_iff.trans hduplicate, demux.bind_eq_registered kind system component channel,
    hok, hinvalid, hduplicate, snd_registered_of_ne_ok, ?_,
    demux.answer_bind_eq_registered kind system component channel⟩
  intro hdone
  have hbind := bind_eq_ok_iff.mpr hdone
  obtain ⟨hself, hother, hcount, hknown, hids, hfields⟩ := bind_adds hbind
  exact ⟨hself, hother, hcount, hknown, hids, hfields, coherent.bind hbind⟩

end Demultiplexer

end FlightBus

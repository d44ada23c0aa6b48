import FlightBus.Lock

/-!
# Mutual exclusion of guards

A guard is live from the time it is given out until it is dropped.  A guard that is
forgotten stays live for ever.  The guards of a lock exclude each other when there is never
more than one live guard and the lock is held exactly while there is one.

This is so in a run exactly when nobody tries to acquire the lock while a guard is live: an
attempt that fails frees the lock under the guard that is live, and the next attempt
succeeds.
-/

namespace FlightBus

variable {α : Type}

/-- Whether an action tries to acquire the lock. -/
def LockAction.isAttempt : LockAction α → Bool
  | .tryAcquire _ | .acquire _ => true
  | _ => false

/-- A session with a lock, and the number of its guards that were forgotten. -/
structure LockHistory (α : Type) where
  /-- The lock and the guards that are kept. -/
  session : LockSession α
  /-- The number of guards that were forgotten. -/
  forgotten : Nat := 0

namespace LockHistory

/-- The history of a new lock with a value. -/
def fresh (value : α) : LockHistory α :=
  ⟨⟨{ value }, []⟩, 0⟩

/-- The number of live guards: those that are kept and those that were forgotten. -/
def live (history : LockHistory α) : Nat :=
  history.session.guards.length + history.forgotten

/-- Performs an action. -/
def perform (history : LockHistory α) (action : LockAction α) :
    LockReply α × LockHistory α :=
  let (reply, session) := history.session.perform action
  (reply, ⟨session,
    match action with
    | .forget _ => history.forgotten + 1
    | _ => history.forgotten⟩)

/-- Whether an action is possible: a guard can only be used as long as it is kept, and the
value can only be replaced without a guard when none is kept. -/
def Permits (history : LockHistory α) : LockAction α → Prop
  | .tryAcquire _ | .acquire _ => True
  | .get guard | .set guard _ | .drop guard | .forget guard =>
      guard ∈ history.session.guards
  | .replace _ => history.session.guards = []

/-! ### Runs -/

/-- Every action of a run has a property together with the history before it. -/
def EveryAction (P : LockHistory α → LockAction α → Prop) :
    LockHistory α → List (LockAction α) → Prop
  | _, [] => True
  | history, action :: actions =>
      P history action ∧ EveryAction P (history.perform action).2 actions

/-- Every history that a run goes through has a property, the first and the last one
included. -/
def EveryState (P : LockHistory α → Prop) : LockHistory α → List (LockAction α) → Prop
  | history, [] => P history
  | history, action :: actions =>
      P history ∧ EveryState P (history.perform action).2 actions

/-! ### Exclusion -/

/-- At most one guard is live, and the lock is held exactly when one is. -/
def Exclusive (history : LockHistory α) : Prop :=
  history.live ≤ 1 ∧ (history.session.lock.isHeld = true ↔ 0 < history.live)

/-- While a guard is live, an attempt that may fail does fail and leaves the lock as it is,
and an attempt that does not give up gives out no guard. -/
def Protects (history : LockHistory α) (action : LockAction α) : Prop :=
  0 < history.live →
    match action with
    | .tryAcquire _ =>
        (history.perform action).1 = .acquired false ∧
          (history.perform action).2.session.lock = history.session.lock
    | .acquire _ => (history.perform action).2.live ≤ history.live
    | _ => True

/-- The lock is tried to acquire only when no guard is live. -/
def Uncontended (history : LockHistory α) (action : LockAction α) : Prop :=
  action.isAttempt = true → history.live = 0

/-! ### One action -/

theorem acquire_of_free {lock : Lock α} (h : lock.isHeld = false) :
  lock.acquire = { lock with isHeld := true }
  := by
  rw [Lock.acquire]
  split
  · rename_i acquired attempt
    rw [Lock.tryAcquire_of_free h] at attempt
    cases attempt
    rfl
  · rename_i freed attempt
    rw [Lock.tryAcquire_of_free h] at attempt
    cases attempt

/-- Whether the lock is free or held, acquiring it returns with the lock held. -/
theorem acquire_eq (lock : Lock α) :
  lock.acquire = { lock with isHeld := true }
  := by
  cases hheld : lock.isHeld with
  | false => apply acquire_of_free hheld
  | true =>
      rw [Lock.acquire]
      split
      · rename_i acquired attempt
        rw [Lock.tryAcquire_of_held hheld] at attempt
        cases attempt
      · rename_i freed attempt
        rw [Lock.tryAcquire_of_held hheld] at attempt
        cases attempt
        apply acquire_of_free rfl

theorem perform_tryAcquire_of_free {history : LockHistory α} (guard : String)
    (h : history.session.lock.isHeld = false) :
  history.perform (.tryAcquire guard) =
    (.acquired true,
      ⟨⟨{ history.session.lock with isHeld := true }, guard :: history.session.guards⟩,
        history.forgotten⟩)
  := by
  simp only [perform, LockSession.perform, Lock.tryAcquire_of_free h]

theorem perform_tryAcquire_of_held {history : LockHistory α} (guard : String)
    (h : history.session.lock.isHeld = true) :
  history.perform (.tryAcquire guard) =
    (.acquired false,
      ⟨⟨{ history.session.lock with isHeld := false }, history.session.guards⟩,
        history.forgotten⟩)
  := by
  simp only [perform, LockSession.perform, Lock.tryAcquire_of_held h]

theorem perform_acquire (history : LockHistory α) (guard : String) :
  history.perform (.acquire guard) =
    (.none,
      ⟨⟨{ history.session.lock with isHeld := true }, guard :: history.session.guards⟩,
        history.forgotten⟩)
  := by
  simp only [perform, LockSession.perform, acquire_eq]

/-- Dropping or forgetting a guard that is kept leaves one guard fewer. -/
theorem length_without {session : LockSession α} {guard : String}
    (h : guard ∈ session.guards) :
  (session.without guard).length + 1 = session.guards.length
  := by
  rw [LockSession.without, List.length_erase_of_mem h]
  apply Nat.sub_add_cancel
  apply List.length_pos_of_mem h

/-- An action protects the live guards exactly when it is no attempt to acquire the lock
while one is live: an attempt that fails frees the lock, and one that does not give up
gives out another guard. -/
theorem protects_iff (history : LockHistory α) (action : LockAction α) :
  history.Protects action ↔ history.Uncontended action
  := by
  constructor
  · intro protects attempt
    rcases Nat.eq_zero_or_pos history.live with hzero | hpos
    · apply hzero
    · exfalso
      cases action with
      | tryAcquire guard =>
          obtain ⟨hreply, hlock⟩ := protects hpos
          cases hheld : history.session.lock.isHeld with
          | false =>
              rw [perform_tryAcquire_of_free guard hheld] at hreply
              cases hreply
          | true =>
              rw [perform_tryAcquire_of_held guard hheld] at hlock
              have hfreed := congrArg Lock.isHeld hlock
              rw [hheld] at hfreed
              cases hfreed
      | acquire guard =>
          have hgrow : (history.perform (.acquire guard)).2.live ≤ history.live := protects hpos
          rw [perform_acquire] at hgrow
          simp only [live, List.length_cons] at hgrow
          omega
      | get | set | drop | forget | replace => cases attempt
  · intro uncontended hpos
    cases action with
    | tryAcquire guard => cases (uncontended rfl ▸ hpos : 0 < 0)
    | acquire guard => cases (uncontended rfl ▸ hpos : 0 < 0)
    | get | set | drop | forget | replace => trivial

/-- Exclusion outlasts an action that is permitted and, if it is an attempt to acquire the
lock, finds no live guard. -/
theorem exclusive_perform {history : LockHistory α} {action : LockAction α}
    (exclusive : history.Exclusive) (permits : history.Permits action)
    (uncontended : history.Uncontended action) :
  (history.perform action).2.Exclusive
  := by
  obtain ⟨hle, hiff⟩ := exclusive
  cases action with
  | tryAcquire guard =>
      have hlive := uncontended rfl
      have hheld : history.session.lock.isHeld = false := by
        rw [hlive] at hiff
        simpa using hiff
      rw [perform_tryAcquire_of_free guard hheld]
      simp only [live, Exclusive, List.length_cons] at hlive ⊢
      constructor
      · omega
      · simp only [true_iff]
        omega
  | acquire guard =>
      have hlive := uncontended rfl
      rw [perform_acquire]
      simp only [live, Exclusive, List.length_cons] at hlive ⊢
      constructor
      · omega
      · simp only [true_iff]
        omega
  | get guard => exact ⟨hle, hiff⟩
  | set guard value => exact ⟨hle, hiff⟩
  | drop guard =>
      have hlength := length_without permits
      simp only [perform, LockSession.perform, live, Exclusive, Lock.release] at hle ⊢
      constructor
      · omega
      · constructor
        · intro hheld
          cases hheld
        · omega
  | forget guard =>
      have hlength := length_without permits
      have hlive : (history.perform (.forget guard)).2.live = history.live := by
        simp only [perform, LockSession.perform, live]
        omega
      rw [Exclusive, hlive]
      exact ⟨hle, hiff⟩
  | replace value => exact ⟨hle, hiff⟩

/-- Exclusion outlasts an attempt to acquire the lock only if no guard is live. -/
theorem uncontended_of_exclusive {history : LockHistory α} {action : LockAction α}
    (before : history.Exclusive) (after : (history.perform action).2.Exclusive) :
  history.Uncontended action
  := by
  intro attempt
  rcases Nat.eq_zero_or_pos history.live with hzero | hpos
  · apply hzero
  · exfalso
    have hheld := before.2.mpr hpos
    cases action with
    | tryAcquire guard =>
        rw [perform_tryAcquire_of_held guard hheld] at after
        cases after.2.mpr hpos
    | acquire guard =>
        have hle := after.1
        rw [perform_acquire] at hle
        simp only [live, List.length_cons] at hle hpos
        omega
    | get | set | drop | forget | replace => cases attempt

/-! ### Runs -/

theorem exclusive_fresh (value : α) :
  (fresh value).Exclusive
  := by
  constructor
  · apply Nat.zero_le
  · constructor
    · intro hheld
      cases hheld
    · intro hlive
      cases hlive

theorem everyAction_protects_iff (history : LockHistory α) (actions : List (LockAction α)) :
  EveryAction Protects history actions ↔ EveryAction Uncontended history actions
  := by
  induction actions generalizing history with
  | nil => rfl
  | cons action actions ih => rw [EveryAction, EveryAction, protects_iff, ih]

theorem everyState_exclusive_iff {history : LockHistory α} {actions : List (LockAction α)}
    (exclusive : history.Exclusive) (permitted : EveryAction Permits history actions) :
  EveryState Exclusive history actions ↔ EveryAction Uncontended history actions
  := by
  induction actions generalizing history with
  | nil =>
      constructor
      · intro _
        trivial
      · intro _
        apply exclusive
  | cons action actions ih =>
      obtain ⟨permits, permitted⟩ := permitted
      constructor
      · rintro ⟨-, states⟩
        have after : (history.perform action).2.Exclusive := by
          cases actions with
          | nil => apply states
          | cons => apply states.1
        constructor
        · apply uncontended_of_exclusive exclusive after
        · apply (ih after permitted).mp states
      · rintro ⟨uncontended, others⟩
        constructor
        · apply exclusive
        · apply (ih (exclusive_perform exclusive permits uncontended) permitted).mpr others

/-- In a run on a new lock, the guards exclude each other in every state exactly when nobody
tries to acquire the lock while a guard is live, and this is also when every action protects
the guards that are live. -/
theorem exclusive_iff_uncontended (value : α) (actions : List (LockAction α))
    (permitted : EveryAction Permits (fresh value) actions) :
  (EveryState Exclusive (fresh value) actions ↔
      EveryAction Uncontended (fresh value) actions) ∧
    (EveryAction Protects (fresh value) actions ↔
      EveryAction Uncontended (fresh value) actions)
  := by
  constructor
  · apply everyState_exclusive_iff (exclusive_fresh value) permitted
  · apply everyAction_protects_iff

/-- The guards exclude each other when the second attempt comes after the first guard was
dropped, and they do not when it was only forgotten, because a guard that was forgotten is
live. -/
theorem exclusive_iff_uncontended_of_drop_of_forget :
  let dropped : List (LockAction Nat) := [.acquire "a", .drop "a", .tryAcquire "b"]
  let forgotten : List (LockAction Nat) := [.acquire "a", .forget "a", .tryAcquire "b"]
  EveryAction Permits (fresh 3) dropped ∧ EveryState Exclusive (fresh 3) dropped ∧
    EveryAction Protects (fresh 3) dropped ∧ EveryAction Permits (fresh 3) forgotten ∧
    ¬ EveryState Exclusive (fresh 3) forgotten ∧ ¬ EveryAction Protects (fresh 3) forgotten
  := by
  intro dropped forgotten
  have hdropped : EveryAction Permits (fresh 3) dropped := by
    simp [dropped, EveryAction, Permits, perform, LockSession.perform, fresh]
  have hforgotten : EveryAction Permits (fresh 3) forgotten := by
    simp [forgotten, EveryAction, Permits, perform, LockSession.perform, fresh]
  have huncontended : EveryAction Uncontended (fresh 3) dropped := by
    refine ⟨fun _ => rfl, ?_, fun _ => rfl, trivial⟩
    intro attempt
    cases attempt
  have hcontended : ¬ EveryAction Uncontended (fresh 3) forgotten := by
    rintro ⟨-, -, hlast, -⟩
    cases hlast rfl
  obtain ⟨hstates, hactions⟩ := exclusive_iff_uncontended 3 dropped hdropped
  obtain ⟨hbroken, hunprotected⟩ := exclusive_iff_uncontended 3 forgotten hforgotten
  refine ⟨hdropped, hstates.mpr huncontended, hactions.mpr huncontended, hforgotten, ?_, ?_⟩
  · rw [hbroken]
    apply hcontended
  · rw [hunprotected]
    apply hcontended

/-- Of three attempts on a new lock the second fails, and the third succeeds although the
guard of the first is live. -/
theorem not_exclusive_third_attempt :
  EveryAction Permits (fresh 0) [.tryAcquire "a", .tryAcquire "b", .tryAcquire "c"] ∧
    ¬ EveryState Exclusive (fresh 0) [.tryAcquire "a", .tryAcquire "b", .tryAcquire "c"]
  := by
  constructor
  · exact ⟨trivial, trivial, trivial, trivial⟩
  · rintro ⟨-, -, -, hle, -⟩
    cases hle with
    | step h => cases h

end LockHistory

end FlightBus

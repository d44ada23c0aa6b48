/-!
# Locks

A lock has a flag and a value.  Acquiring the lock sets the flag and yields a guard, through
which the value is read and written.  Dropping a guard clears the flag, whoever set it.

An attempt to acquire the lock makes its guard in any case, and drops it when it turns out
that the flag was set before.  So an attempt on a held lock yields no guard, but it frees
the lock, and the next attempt succeeds.
-/

namespace FlightBus

/-- A lock that guards a value. -/
structure Lock (α : Type) where
  /-- Whether the lock is held. -/
  isHeld : Bool := false
  /-- The guarded value. -/
  value : α
deriving DecidableEq, Repr

namespace Lock

variable {α : Type}

/-- Sets the flag, and says whether it was clear. -/
def raise (lock : Lock α) : Bool × Lock α :=
  if lock.isHeld then (false, lock) else (true, { lock with isHeld := true })

/-- The lock after a guard is dropped. -/
def release (lock : Lock α) : Lock α :=
  { lock with isHeld := false }

/-- Tries to acquire the lock, and says whether that yields a guard. -/
def tryAcquire (lock : Lock α) : Bool × Lock α :=
  match lock.raise with
  | (true, raised) => (true, raised)
  | (false, held) => (false, held.release)

theorem tryAcquire_of_free {lock : Lock α} (h : lock.isHeld = false) :
  lock.tryAcquire = (true, { lock with isHeld := true })
  := by
  simp [tryAcquire, raise, h]

theorem tryAcquire_of_held {lock : Lock α} (h : lock.isHeld = true) :
  lock.tryAcquire = (false, { lock with isHeld := false })
  := by
  simp [tryAcquire, raise, release, h]

/-- Tries to acquire the lock until that yields a guard, which is at the second attempt at
the latest. -/
def acquire (lock : Lock α) : Lock α :=
  match _ : lock.tryAcquire with
  | (true, acquired) => acquired
  | (false, freed) => acquire freed
termination_by lock.isHeld.toNat
decreasing_by
  rename_i attempt
  cases hheld : lock.isHeld with
  | false =>
      rw [tryAcquire_of_free hheld] at attempt
      simp at attempt
  | true =>
      rw [tryAcquire_of_held hheld] at attempt
      cases attempt
      simp

/-- The lock with another value. -/
def store (lock : Lock α) (value : α) : Lock α :=
  { lock with value := value }

end Lock

/-! ### Guards by name -/

/-- A lock and the names of its guards that are kept. -/
structure LockSession (α : Type) where
  /-- The lock. -/
  lock : Lock α
  /-- The names of the guards. -/
  guards : List String := []

/-- What can be done with a lock and its guards. -/
inductive LockAction (α : Type)
  /-- Tries to acquire the lock, and keeps a guard under a name. -/
  | tryAcquire (guard : String)
  /-- Acquires the lock, and keeps the guard under a name. -/
  | acquire (guard : String)
  /-- Reads the value through a guard. -/
  | get (guard : String)
  /-- Writes the value through a guard. -/
  | set (guard : String) (value : α)
  /-- Drops a guard. -/
  | drop (guard : String)
  /-- Forgets a guard without dropping it. -/
  | forget (guard : String)
  /-- Replaces the value without a guard. -/
  | replace (value : α)

/-- What an action on a lock gives back. -/
inductive LockReply (α : Type)
  | none
  | acquired (success : Bool)
  | value (value : α)

namespace LockSession

variable {α : Type}

/-- The guards without one of the given name. -/
def without (session : LockSession α) (guard : String) : List String :=
  session.guards.erase guard

/-- Performs an action. -/
def perform (session : LockSession α) : LockAction α → LockReply α × LockSession α
  | .tryAcquire guard =>
      match session.lock.tryAcquire with
      | (true, lock) => (.acquired true, ⟨lock, guard :: session.guards⟩)
      | (false, lock) => (.acquired false, ⟨lock, session.guards⟩)
  | .acquire guard => (.none, ⟨session.lock.acquire, guard :: session.guards⟩)
  | .get _ => (.value session.lock.value, session)
  | .set _ value => (.none, ⟨session.lock.store value, session.guards⟩)
  | .drop guard => (.none, ⟨session.lock.release, session.without guard⟩)
  | .forget guard => (.none, ⟨session.lock, session.without guard⟩)
  | .replace value => (.value session.lock.value, ⟨session.lock.store value, session.guards⟩)

end LockSession

end FlightBus

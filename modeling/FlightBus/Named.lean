/-!
# Named values

A small table of values under names, in which a later value replaces an earlier one of
the same name.
-/

namespace FlightBus

/-- Values under names, at most one under a name. -/
abbrev Named (β : Type) := List (String × β)

namespace Named

variable {β : Type}

/-- The value under a name. -/
def find? (named : Named β) (name : String) : Option β :=
  named.lookup name

/-- The values without the one under a name. -/
def erase (named : Named β) (name : String) : Named β :=
  named.filter (fun entry => entry.1 ≠ name)

/-- The values with one stored under a name. -/
def insert (named : Named β) (name : String) (value : β) : Named β :=
  (name, value) :: named.erase name

theorem find?_cons_self (named : Named β) (name : String) (value : β) :
  find? ((name, value) :: named) name = some value
  := List.lookup_cons_self

theorem find?_cons_of_ne (named : Named β) {name other : String} (value : β)
    (h : name ≠ other) :
  find? ((name, value) :: named) other = named.find? other
  := by
  rw [find?, List.lookup_cons, beq_eq_false_iff_ne.mpr h.symm, find?]

theorem find?_erase (named : Named β) (name other : String) :
  (named.erase name).find? other = if name = other then none else named.find? other
  := by
  induction named with
  | nil =>
      split
      · rfl
      · rfl
  | cons entry named ih =>
      obtain ⟨key, value⟩ := entry
      by_cases hkey : key = name
      · have hgone : erase ((key, value) :: named) name = erase named name := by
          apply List.filter_cons_of_neg
          simp [hkey]
        rw [hgone, ih]
        split
        · rfl
        · rename_i hname
          rw [hkey, find?_cons_of_ne named value hname]
      · have hkept : erase ((key, value) :: named) name = (key, value) :: erase named name := by
          apply List.filter_cons_of_pos
          simp [hkey]
        rw [hkept]
        by_cases hother : key = other
        · rw [hother, find?_cons_self, find?_cons_self, if_neg (hother ▸ Ne.symm hkey)]
        · rw [find?_cons_of_ne _ value hother, find?_cons_of_ne _ value hother, ih]

theorem find?_insert (named : Named β) (name other : String) (value : β) :
  (named.insert name value).find? other =
    if name = other then some value else named.find? other
  := by
  rw [insert]
  split
  · rename_i h
    rw [h, find?_cons_self]
  · rename_i h
    rw [find?_cons_of_ne _ value h, find?_erase, if_neg h]

theorem find?_insert_eq_some {named : Named β} {name other : String} {value found : β} :
  (named.insert name value).find? other = some found ↔
    (name = other ∧ value = found) ∨ (name ≠ other ∧ named.find? other = some found)
  := by
  rw [find?_insert]
  split
  · rename_i h
    simp [h]
  · rename_i h
    simp [h]

theorem find?_erase_eq_some {named : Named β} {name other : String} {found : β} :
  (named.erase name).find? other = some found ↔
    name ≠ other ∧ named.find? other = some found
  := by
  rw [find?_erase]
  split
  · rename_i h
    simp [h]
  · rename_i h
    simp [h]

end Named

end FlightBus

import FlightBus.Time
import Mathlib.Algebra.Order.Ring.Int
import Mathlib.Order.MinMax

/-!
# Units of time

A point in time that is given in some unit is the exact number of nanoseconds, clamped to the
range of 64 bits, and read in a unit it is the quotient, truncated toward zero.  So what is
read in the unit in which it was given is clamped to the range of the units, whole units are
read in one step as in several, and nothing goes back in time.  Moving a point in time gives
the exact sum, or nothing or the end of the range if this is out of range.
-/

namespace FlightBus

/-- The integer nearest to `x` that is represented by 64 bits. -/
def clamped (x : Int) : Int :=
  max (-2 ^ 63) (min x (2 ^ 63 - 1))

/-- Whether an integer is represented by 64 bits. -/
def IsRepresented (x : Int) : Prop :=
  -2 ^ 63 ≤ x ∧ x ≤ 2 ^ 63 - 1

theorem clamped_of_isRepresented {x : Int} (h : IsRepresented x) :
  clamped x = x
  := by
  obtain ⟨hlower, hupper⟩ := h
  rw [clamped, min_eq_left hupper, max_eq_right hlower]

theorem clamped_le_clamped {x y : Int} (h : x ≤ y) :
  clamped x ≤ clamped y
  := max_le_max_left _ (min_le_min_right _ h)

theorem toInt_clampInt64 (x : Int) :
  (clampInt64 x).toInt = clamped x
  := by
  rw [clampInt64, clamped, Int64.toInt_minValue, Int64.toInt_maxValue]
  split
  · rename_i hlow
    rw [Int64.toInt_minValue]
    omega
  · rename_i hlow
    split
    · rename_i hhigh
      rw [Int64.toInt_maxValue]
      omega
    · rename_i hhigh
      rw [Int64.toInt_ofInt_of_le (by omega) (by omega)]
      omega

/-! ### Truncated division -/

/-- Dividing in two steps is dividing by the product. -/
theorem tdiv_tdiv (x : Int) {b c : Int} (hb : 0 ≤ b) :
  (x.tdiv b).tdiv c = x.tdiv (b * c)
  := by
  have hnonneg : ∀ n : Int, 0 ≤ n → (n.tdiv b).tdiv c = n.tdiv (b * c) := by
    intro n hn
    rw [Int.tdiv_eq_ediv_of_nonneg hn, Int.tdiv_eq_ediv_of_nonneg (Int.ediv_nonneg hn hb),
      Int.tdiv_eq_ediv_of_nonneg hn, Int.ediv_ediv_of_nonneg hb]
  rcases Int.le_total 0 x with hx | hx
  · apply hnonneg x hx
  · have hneg := hnonneg (-x) (Int.neg_nonneg_of_nonpos hx)
    rw [Int.neg_tdiv, Int.neg_tdiv, Int.neg_tdiv] at hneg
    apply Int.neg_inj.mp hneg

/-- A number of units, clamped as a number of parts and counted in units again, is clamped to
the whole units in the range. -/
theorem tdiv_clamped_mul (x : Int) {f : Int} (hf : 0 < f) :
  (clamped (x * f)).tdiv f =
    max (Int.tdiv (-2 ^ 63) f) (min x (Int.tdiv (2 ^ 63 - 1) f))
  := by
  have hmono : Monotone (fun n : Int => n.tdiv f) := fun _ _ h => Int.tdiv_le_tdiv hf h
  have hx : (x * f).tdiv f = x := Int.mul_tdiv_cancel x (ne_of_gt hf)
  calc
    (clamped (x * f)).tdiv f =
        max (Int.tdiv (-2 ^ 63) f) ((min (x * f) (2 ^ 63 - 1)).tdiv f) := hmono.map_max
    _ = max (Int.tdiv (-2 ^ 63) f) (min ((x * f).tdiv f) (Int.tdiv (2 ^ 63 - 1) f)) :=
        congrArg _ hmono.map_min
    _ = max (Int.tdiv (-2 ^ 63) f) (min x (Int.tdiv (2 ^ 63 - 1) f)) := by rw [hx]

/-! ### Units -/

/-- The number of nanoseconds in a unit. -/
def TimeUnit.factor : TimeUnit → Int
  | .nanoseconds => 1
  | .microseconds => 10 ^ 3
  | .milliseconds => 10 ^ 6
  | .seconds => 10 ^ 9

namespace TimeUnit

theorem toInt_span (unit : TimeUnit) :
  unit.span.toInt = unit.factor
  := by
  cases unit <;> rfl

theorem factor_pos (unit : TimeUnit) :
  0 < unit.factor
  := by
  cases unit <;> decide

theorem span_ne_neg_one (unit : TimeUnit) :
  unit.span ≠ -1
  := by
  cases unit <;> decide

end TimeUnit

namespace Timestamp

/-- The nanoseconds of a point in time that is given in a unit are clamped. -/
theorem toInt_ns_ofUnits (unit : TimeUnit) (x : Int64) :
  (ofUnits unit x).ns.toInt = clamped (x.toInt * unit.factor)
  := by
  rw [ofUnits, toInt_clampInt64, TimeUnit.toInt_span]

/-- The units that are read are whole ones, toward zero. -/
theorem toInt_inUnits (unit : TimeUnit) (t : Timestamp) :
  (t.inUnits unit).toInt = t.ns.toInt.tdiv unit.factor
  := by
  rw [inUnits, Int64.toInt_div_of_ne_right _ _ unit.span_ne_neg_one, TimeUnit.toInt_span]

/-- A coarser unit may be read through a finer one. -/
theorem inUnits_eq_div {fine coarse : TimeUnit} {ratio : Int64} (hratio : ratio ≠ -1)
    (h : coarse.factor = fine.factor * ratio.toInt) (t : Timestamp) :
  t.inUnits coarse = t.inUnits fine / ratio
  := by
  apply Int64.toInt_inj.mp
  rw [Int64.toInt_div_of_ne_right _ _ hratio, toInt_inUnits, toInt_inUnits,
    tdiv_tdiv _ (Int.le_of_lt fine.factor_pos), h]

theorem ofUnits_mono (unit : TimeUnit) {x y : Int64} (h : x ≤ y) :
  (ofUnits unit x).ns ≤ (ofUnits unit y).ns
  := by
  rw [Int64.le_iff_toInt_le] at h ⊢
  rw [toInt_ns_ofUnits, toInt_ns_ofUnits]
  apply clamped_le_clamped
  apply Int.mul_le_mul_of_nonneg_right h (Int.le_of_lt unit.factor_pos)

theorem inUnits_mono (unit : TimeUnit) {t u : Timestamp} (h : t.ns ≤ u.ns) :
  t.inUnits unit ≤ u.inUnits unit
  := by
  rw [Int64.le_iff_toInt_le] at h ⊢
  rw [toInt_inUnits, toInt_inUnits]
  apply Int.tdiv_le_tdiv unit.factor_pos h

/-- Moving a point in time gives the exact sum, clamped. -/
theorem toInt_ns_add (t : Timestamp) (ns : Int64) :
  (t.add ns).ns.toInt = clamped (t.ns.toInt + ns.toInt)
  := toInt_clampInt64 _

theorem add?_of_isRepresented {t : Timestamp} {ns : Int64}
    (h : IsRepresented (t.ns.toInt + ns.toInt)) :
  t.add? ns = some (t.add ns)
  := by
  have hsum : Int64.ofInt (t.ns.toInt + ns.toInt) = (t.add ns).ns := by
    apply Int64.toInt_inj.mp
    rw [toInt_ns_add, clamped_of_isRepresented h]
    apply Int64.toInt_ofInt_of_le h.1 (Int.lt_of_le_sub_one h.2)
  rw [add?, Int64.toInt_minValue, Int64.toInt_maxValue, hsum]
  apply if_pos h

theorem add?_of_not_isRepresented {t : Timestamp} {ns : Int64}
    (h : ¬ IsRepresented (t.ns.toInt + ns.toInt)) :
  t.add? ns = none
  := by
  rw [add?, Int64.toInt_minValue, Int64.toInt_maxValue]
  apply if_neg h

/-- Nothing comes of a move if and only if the exact sum is out of range. -/
theorem add?_eq_none_iff (t : Timestamp) (ns : Int64) :
  t.add? ns = none ↔ ¬ IsRepresented (t.ns.toInt + ns.toInt)
  := by
  constructor
  · intro hnone h
    rw [add?_of_isRepresented h] at hnone
    cases hnone
  · apply add?_of_not_isRepresented

/-- Conversions between units are exact up to the range.  Reading in the unit in which a point
in time was given clamps the number of units to those in the range, and reading in any unit
truncates the clamped number of nanoseconds.  Coarser units are finer ones, truncated again.
Giving and reading are monotone.  A move fails if and only if the exact sum is out of range, is
the clamped move otherwise, and this is the exact sum, clamped. -/
theorem conversions_exact :
  (∀ unit x, ((ofUnits unit x).inUnits unit).toInt =
    max (Int.tdiv (-2 ^ 63) unit.factor) (min x.toInt (Int.tdiv (2 ^ 63 - 1) unit.factor))) ∧
  (∀ unit view x, ((ofUnits unit x).inUnits view).toInt =
    (clamped (x.toInt * unit.factor)).tdiv view.factor) ∧
  (∀ t : Timestamp, t.inUnits .milliseconds = t.inUnits .microseconds / 1000 ∧
    t.inUnits .seconds = t.inUnits .milliseconds / 1000) ∧
  (∀ unit x y, x ≤ y → (ofUnits unit x).ns ≤ (ofUnits unit y).ns) ∧
  (∀ unit (t u : Timestamp), t.ns ≤ u.ns → t.inUnits unit ≤ u.inUnits unit) ∧
  (∀ (t : Timestamp) ns,
    (t.add? ns = none ↔ ¬ IsRepresented (t.ns.toInt + ns.toInt)) ∧
    (IsRepresented (t.ns.toInt + ns.toInt) → t.add? ns = some (t.add ns)) ∧
    (t.add ns).ns.toInt = clamped (t.ns.toInt + ns.toInt))
  := by
  refine ⟨?_, ?_, ?_, ?_, ?_, ?_⟩
  · intro unit x
    rw [toInt_inUnits, toInt_ns_ofUnits, tdiv_clamped_mul _ unit.factor_pos]
  · intro unit view x
    rw [toInt_inUnits, toInt_ns_ofUnits]
  · intro t
    constructor
    · apply inUnits_eq_div (by decide) rfl
    · apply inUnits_eq_div (by decide) rfl
  · intro unit x y
    apply ofUnits_mono
  · intro unit t u
    apply inUnits_mono
  · intro t ns
    exact ⟨add?_eq_none_iff t ns, add?_of_isRepresented, toInt_ns_add t ns⟩

/-- The earliest seconds that can be given, seconds around the epoch, and a move to the end of
the range. -/
theorem conversions_exact_extremes :
  ((ofUnits .seconds Int64.minValue).inUnits .seconds).toInt = -9223372036 ∧
    (-1 : Int64) ≤ 1 ∧
    (ofUnits .seconds (-1)).ns ≤ (ofUnits .seconds 1).ns ∧
    (⟨-999⟩ : Timestamp).ns ≤ (⟨999⟩ : Timestamp).ns ∧
    (⟨-999⟩ : Timestamp).inUnits .microseconds ≤ (⟨999⟩ : Timestamp).inUnits .microseconds ∧
    IsRepresented ((0 : Int64).toInt + Int64.maxValue.toInt) ∧
    (⟨0⟩ : Timestamp).add? Int64.maxValue = some ((⟨0⟩ : Timestamp).add Int64.maxValue)
  := by
  obtain ⟨hgiven, -, -, hofUnits, hinUnits, hadd⟩ := conversions_exact
  have hrange : IsRepresented ((0 : Int64).toInt + Int64.maxValue.toInt) := by
    constructor <;> decide
  refine ⟨?_, by decide, ?_, by decide, ?_, hrange, ?_⟩
  · rw [hgiven]
    rfl
  · apply hofUnits .seconds (-1) 1 (by decide)
  · apply hinUnits .microseconds ⟨-999⟩ ⟨999⟩ (by decide)
  · apply (hadd ⟨0⟩ Int64.maxValue).2.1 hrange

end Timestamp

end FlightBus

import ChargeBasis.Decimal.Arithmetic
import Mathlib

/-!
Exact sums, differences and products. As long as the exact result, counted in units of the last
place kept, stays below the limit of a decimal, an operation gives that result and drops no digit.
-/

namespace ChargeBasis.Decimal

theorem tenPow_cast_pos (n : Nat)
    : (0 : ℚ) < tenPow n := by
  exact_mod_cast tenPow_pos n

theorem tenPow_cast (n : Nat)
    : (tenPow n : ℚ) = 10 ^ n :=
  Nat.cast_pow 10 n

/-- A power of ten is split at a shorter one. -/
theorem tenPow_split {shorter longer : Nat} (h : shorter ≤ longer)
    : tenPow longer = tenPow shorter * tenPow (longer - shorter) := by
  rw [← tenPow_add, Nat.add_sub_cancel' h]

/-- The units are the value counted in the last place. -/
theorem toRat_mul_tenPow (x : Decimal)
    : x.toRat * tenPow x.scale = x.units := by
  have positive := tenPow_cast_pos x.scale
  rw [toRat, Rat.mkRat_eq_div]
  field_simp

theorem toRat_eq_of_units {x : Decimal} {q : ℚ} (h : (x.units : ℚ) = q * tenPow x.scale)
    : x.toRat = q := by
  have positive := tenPow_cast_pos x.scale
  have same := toRat_mul_tenPow x
  rw [h] at same
  exact mul_right_cancel₀ positive.ne' same

/-- Units at a longer scale are the value counted in the last place of that scale. -/
theorem unitsAt_cast {x : Decimal} {scale : Nat} (h : x.scale ≤ scale)
    : (x.unitsAt scale : ℚ) = x.toRat * tenPow scale := by
  rw [unitsAt, tenPow_split h]
  push_cast
  rw [← toRat_mul_tenPow]
  ring

theorem toRat_of_isZero {x : Decimal} (h : x.isZero = true)
    : x.toRat = 0 := by
  apply toRat_eq_of_units
  have none : x.magnitude = 0 := by simpa [isZero] using h
  simp [units, none]

theorem isZero_of_toRat_ne_zero {x : Decimal} (some : x.toRat ≠ 0)
    : x.isZero = false := by
  rw [← Bool.not_eq_true]
  exact mt toRat_of_isZero some

@[simp] theorem toRat_zero
    : Decimal.zero.toRat = 0 :=
  toRat_of_isZero rfl

@[simp] theorem toRat_neg (x : Decimal)
    : (-x).toRat = -x.toRat := by
  have scale : (-x).scale = x.scale := rfl
  rw [toRat, toRat, Rat.mkRat_eq_div, Rat.mkRat_eq_div, units_neg, scale]
  push_cast
  exact neg_div _ _

/-- Units that a whole number bounds at some scale are bounded at every shorter one. -/
theorem natAbs_lt_limit {units : ℤ} {scale places : Nat} {q : ℚ}
    (exact : (units : ℚ) = q * tenPow scale) (shorter : scale ≤ places)
    (bound : |q| * tenPow places < limit)
    : units.natAbs < limit := by
  have positive := tenPow_cast_pos scale
  have power : (tenPow scale : ℚ) ≤ tenPow places := by
    exact_mod_cast Nat.pow_le_pow_right (by decide) shorter
  have magnitude : (units.natAbs : ℚ) = |q| * tenPow scale := by
    rw [Nat.cast_natAbs, Int.cast_abs, exact, abs_mul, abs_of_pos positive]
  have below : (units.natAbs : ℚ) < limit := by
    rw [magnitude]
    exact lt_of_le_of_lt (mul_le_mul_of_nonneg_left power (abs_nonneg q)) bound
  exact_mod_cast below

theorem fit?_exact (units : ℤ) {negative : Bool} {magnitude scale places : Nat} {q : ℚ}
    (signed : units = if negative then -(magnitude : ℤ) else magnitude)
    (exact : (units : ℚ) = q * tenPow scale)
    (shorter : scale ≤ places) (kept : places ≤ maxScale)
    (bound : |q| * tenPow places < limit)
    : ∃ z, fit? negative magnitude scale = some z ∧ z.scale ≤ places ∧ z.toRat = q := by
  have small : magnitude < limit := by
    have below := natAbs_lt_limit exact shorter bound
    rw [signed] at below
    split at below <;> omega
  refine ⟨_, fit?_of_bounds small (Nat.le_trans shorter kept), shorter, ?_⟩
  apply toRat_eq_of_units
  rw [← exact, signed]
  rfl

/-- Below the limit a sum is the sum of the values, by cases on the zero operands. -/
theorem add?_exact {x y : Decimal} {places : Nat}
    (hx : x.scale ≤ places) (hy : y.scale ≤ places) (kept : places ≤ maxScale)
    (bound : |x.toRat + y.toRat| * tenPow places < limit)
    : ∃ z, x.add? y = some z ∧ z.scale ≤ places ∧ z.toRat = x.toRat + y.toRat := by
  unfold add?
  split
  -- a zero is not brought to a common scale: its own scale does not count
  · next zero => exact ⟨y, rfl, hy, by rw [toRat_of_isZero zero, zero_add]⟩
  split
  · next zero => exact ⟨x, rfl, hx, by rw [toRat_of_isZero zero, add_zero]⟩
  apply fit?_exact (x.unitsAt (max x.scale y.scale) + y.unitsAt (max x.scale y.scale))
    _ _ (Nat.max_le.mpr ⟨hx, hy⟩) kept bound
  · simp only [decide_eq_true_eq]
    split <;> omega
  · push_cast
    rw [unitsAt_cast (Nat.le_max_left ..), unitsAt_cast (Nat.le_max_right ..)]
    ring

/-- Below the limit a difference is the difference of the values. -/
theorem sub?_exact {x y : Decimal} {places : Nat}
    (hx : x.scale ≤ places) (hy : y.scale ≤ places) (kept : places ≤ maxScale)
    (bound : |x.toRat - y.toRat| * tenPow places < limit)
    : ∃ z, x.sub? y = some z ∧ z.scale ≤ places ∧ z.toRat = x.toRat - y.toRat := by
  rw [sub_eq_add_neg, ← toRat_neg] at bound ⊢
  exact add?_exact hx hy kept bound

/-- The sign of a product of units is that of exactly one negative factor. -/
theorem units_mul (x : Decimal) {n : ℤ} (nonzero : n ≠ 0)
    : x.units * n
      = if (x.negative != decide (n < 0)) = true then -((x.magnitude * n.natAbs : ℕ) : ℤ)
        else (x.magnitude * n.natAbs : ℕ) := by
  rcases n.eq_nat_or_neg with ⟨k, rfl | rfl⟩
  · cases sign : x.negative <;> simp [units, sign]
  · have some : k ≠ 0 := by omega
    cases sign : x.negative <;> simp [units, sign, some]

/-- Below the limit a product with a whole number is the product of the values, by cases on the
zero factors. -/
theorem times?_exact {x : Decimal} {n : ℤ} {places : Nat}
    (hx : x.scale ≤ places) (kept : places ≤ maxScale)
    (bound : |x.toRat * n| * tenPow places < limit)
    : ∃ z, x.times? n = some z ∧ z.scale ≤ places ∧ z.toRat = x.toRat * n := by
  unfold times?
  split
  · next zero =>
    refine ⟨.zero, rfl, Nat.zero_le _, ?_⟩
    rcases Bool.or_eq_true_iff.mp zero with none | none
    · rw [toRat_of_isZero none, zero_mul, toRat_zero]
    · simp [eq_of_beq none]
  · next factors =>
    have nonzero : n ≠ 0 := by
      intro none
      subst none
      simp at factors
    apply fit?_exact (x.units * n) (units_mul x nonzero) _ hx kept bound
    push_cast
    rw [← toRat_mul_tenPow]
    ring

end ChargeBasis.Decimal

import ChargeBasis.Proofs.Decimal.Rounding
import ChargeBasis.Proofs.Money.Scales

/-!
The value of a sum. How the amounts are written decides how their sum is written, but not what it
is worth: a sum that has to be brought into bounds drops the same digits however many zeros stand
behind them. This needs no range, unlike a sum in another order.
-/

namespace ChargeBasis

-----------------------------------------------------------------------------------------
-- Decimals
-----------------------------------------------------------------------------------------

/-- A quotient that is expanded is rounded in the same way. -/
theorem roundDiv_mul_mul (tie : Tie) (n : ℕ) {d k : ℕ} (divides : 0 < d) (positive : 0 < k)
    : roundDiv tie (n * k) (d * k) = roundDiv tie n d := by
  have value : ((n * k : ℕ) : ℚ) / (d * k : ℕ) = n / d := by
    push_cast
    exact mul_div_mul_right _ _ (by exact_mod_cast positive.ne')
  rw [← tie.nearest_div _ (Nat.mul_pos divides positive), value, tie.nearest_div n divides]

namespace Decimal

/-- With one more zero behind its digits a number is kept as it is, if that fits, and is brought
into bounds in the same way if it does not.
-/
theorem fit?_mul_ten (negative : Bool) (magnitude scale : ℕ)
    : fit? negative (magnitude * 10) (scale + 1)
      = (ofMagnitude? negative (magnitude * 10) (scale + 1)).or
          (fit? negative magnitude scale) := by
  rw [fit?, List.range_succ_eq_map, List.findSome?_cons, List.findSome?_map, tenPow_zero,
    roundDiv_one]
  have dropped
      : (fun dropped =>
          ofMagnitude? negative (roundDiv .toEven (magnitude * 10) (tenPow dropped))
            (scale + 1 - dropped))
          ∘ Nat.succ
        = fun dropped =>
            ofMagnitude? negative (roundDiv .toEven magnitude (tenPow dropped))
              (scale - dropped) := by
    funext dropped
    rw [Function.comp_apply, tenPow_succ, roundDiv_mul_mul _ _ (tenPow_pos _) (by decide),
      Nat.succ_sub_succ]
  rw [dropped]
  cases ofMagnitude? negative (magnitude * 10) (scale + 1 - 0) <;> rfl

/-- A zero behind the digits does not change the value that is brought into bounds. -/
theorem map_toRat_fit?_mul_ten (negative : Bool) (magnitude scale : ℕ)
    : (fit? negative (magnitude * 10) (scale + 1)).map toRat
      = (fit? negative magnitude scale).map toRat := by
  rw [fit?_mul_ten, ofMagnitude?]
  split
  next fits =>
    have short : magnitude < limit := by omega
    have places : scale ≤ maxScale := by omega
    rw [fit?_of_bounds short places]
    refine congrArg some (toRat_eq_of_units ?_)
    have units
        : (⟨negative, magnitude * 10, scale + 1, fits.1, fits.2⟩ : Decimal).units
          = (⟨negative, magnitude, scale, short, places⟩ : Decimal).units * 10 := by
      cases negative <;> simp [Decimal.units]
    rw [units, tenPow_succ]
    push_cast
    rw [← toRat_mul_tenPow]
    exact mul_assoc _ _ _
  next => rfl

/-- Nor do several zeros, by induction over them. -/
theorem map_toRat_fit?_mul_tenPow (negative : Bool) (magnitude scale zeros : ℕ)
    : (fit? negative (magnitude * tenPow zeros) (scale + zeros)).map toRat
      = (fit? negative magnitude scale).map toRat := by
  induction zeros with
  | zero => rw [tenPow_zero, mul_one, add_zero]
  | succ zeros ih => rw [tenPow_succ, ← mul_assoc, ← add_assoc, map_toRat_fit?_mul_ten, ih]

/-- The value of a sum at any scale that is long enough for both numbers. -/
theorem map_toRat_add?_at {x y : Decimal} (scale : ℕ) (hx : x.isZero = false)
    (hy : y.isZero = false) (long : max x.scale y.scale ≤ scale)
    : (x.add? y).map toRat
      = (fit? (x.unitsAt scale + y.unitsAt scale < 0)
          (x.unitsAt scale + y.unitsAt scale).natAbs scale).map toRat := by
  obtain ⟨zeros, rfl⟩ := Nat.exists_eq_add_of_le long
  have expanded (z : Decimal) (within : z.scale ≤ max x.scale y.scale)
      : z.unitsAt (max x.scale y.scale + zeros)
        = z.unitsAt (max x.scale y.scale) * tenPow zeros := by
    rw [unitsAt, unitsAt, Nat.sub_add_comm within, tenPow_add]
    push_cast
    ring
  have positive : (0 : ℤ) < tenPow zeros := by exact_mod_cast tenPow_pos zeros
  rw [expanded x (Nat.le_max_left ..), expanded y (Nat.le_max_right ..), ← add_mul, Int.natAbs_mul,
    Int.natAbs_natCast, map_toRat_fit?_mul_tenPow, add?, if_neg (by simp [hx]),
    if_neg (by simp [hy])]
  simp only [mul_neg_iff, positive, and_true, not_lt_of_gt positive, and_false, false_or]

/-- Numbers of the same values have a sum of the same value, or none at all. -/
theorem map_toRat_add?_congr {x y v w : Decimal} (left : x.toRat = v.toRat)
    (right : y.toRat = w.toRat)
    : (x.add? y).map toRat = (v.add? w).map toRat := by
  have leftZero : x.isZero = v.isZero := by
    rw [Bool.eq_iff_iff, isZero_iff, isZero_iff, left]
  have rightZero : y.isZero = w.isZero := by
    rw [Bool.eq_iff_iff, isZero_iff, isZero_iff, right]
  cases hx : x.isZero with
  | true =>
      rw [add?, add?, if_pos hx, if_pos (leftZero ▸ hx)]
      exact congrArg some right
  | false =>
      cases hy : y.isZero with
      | true =>
          rw [add?, add?, if_neg (by simp [hx]), if_pos hy, if_neg (by simp [← leftZero, hx]),
            if_pos (rightZero ▸ hy)]
          exact congrArg some left
      | false =>
          let scale := max (max x.scale y.scale) (max v.scale w.scale)
          have units {a b : Decimal} (value : a.toRat = b.toRat) (ha : a.scale ≤ scale)
              (hb : b.scale ≤ scale)
              : a.unitsAt scale = b.unitsAt scale := by
            have same : (a.unitsAt scale : ℚ) = b.unitsAt scale := by
              rw [unitsAt_cast ha, unitsAt_cast hb, value]
            exact_mod_cast same
          rw [map_toRat_add?_at scale hx hy (Nat.le_max_left ..),
            map_toRat_add?_at scale (leftZero ▸ hx) (rightZero ▸ hy) (Nat.le_max_right ..),
            units left (by omega) (by omega), units right (by omega) (by omega)]

end Decimal

-----------------------------------------------------------------------------------------
-- Amounts
-----------------------------------------------------------------------------------------

namespace Money

/-- Amounts of the same values have a sum of the same value, or overflow. -/
theorem map_toRat_add_congr {a b c d : Money} (left : a.toRat = c.toRat) (right : b.toRat = d.toRat)
    : (a.add b).map toRat = (c.add d).map toRat := by
  have settles (x : Option Decimal)
      : (settle .addition x).map toRat
        = (x.map Decimal.toRat).elim (.error .addition) fun value =>
            .ok (Tie.toEven.rounded workingPlaces value) := by
    cases x with
    | none => rfl
    | some x => exact congrArg Except.ok (Decimal.toRat_round _ _ x)
  rw [add, add, settles, settles, Decimal.map_toRat_add?_congr left right]

/-- Amounts that are added to ones of the same value, one by one, by induction over them. -/
theorem map_toRat_foldlM_add_congr {amounts others : List Money} {a b : Money}
    (start : a.toRat = b.toRat) (values : amounts.map toRat = others.map toRat)
    : (amounts.foldlM add a).map toRat = (others.foldlM add b).map toRat := by
  induction amounts generalizing others a b with
  | nil =>
      cases List.map_eq_nil_iff.mp values.symm
      exact congrArg Except.ok start
  | cons m rest ih =>
      obtain ⟨other, others, rfl, value, valuesRest⟩ := List.map_eq_cons_iff.mp values.symm
      have first := map_toRat_add_congr start value.symm
      rw [List.foldlM_cons, List.foldlM_cons]
      revert first
      rcases a.add m with kind | sum <;> rcases b.add other with otherKind | otherSum <;>
        intro first
      · cases first
        rfl
      · cases first
      · cases first
      · exact ih (Except.ok.inj first) valuesRest.symm

/-- Amounts of the same values, one by one, have a sum of the same value, or overflow. -/
theorem map_toRat_sum_congr {amounts others : List Money}
    (values : amounts.map toRat = others.map toRat)
    : (sum amounts).map toRat = (sum others).map toRat :=
  map_toRat_foldlM_add_congr rfl values

end Money

end ChargeBasis

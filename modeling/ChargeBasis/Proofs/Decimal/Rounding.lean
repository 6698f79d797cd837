import ChargeBasis.Decimal.Basic
import ChargeBasis.Proofs.Decimal.Exactness

/-!
Rounding as a function of the value alone. A quotient of whole numbers is rounded to the whole
number nearest to its value; a value is rounded to some places when it is counted in the last of
them, and its sign is left out of account.
-/

namespace ChargeBasis

-----------------------------------------------------------------------------------------
-- Whole numbers
-----------------------------------------------------------------------------------------

/-- Rounding goes to one of the two neighbours. -/
theorem roundDiv_le_succ (tie : Tie) (n d : Nat)
    : roundDiv tie n d ≤ n / d + 1 := by
  unfold roundDiv
  split <;> omega

namespace Tie

variable {tie : Tie} {v w : ℚ}

/-- The natural number nearest to a value, by the tie rule when two are equally near. -/
def nearest (tie : Tie) (v : ℚ) : ℕ :=
  if Int.fract v < 1 / 2 ∨ (Int.fract v = 1 / 2 ∧ tie.keeps ⌊v⌋₊ = true) then ⌊v⌋₊
  else ⌊v⌋₊ + 1

/-- A value that is not negative is its integer part and its fractional part. -/
theorem natFloor_add_fract (nonneg : 0 ≤ v)
    : (⌊v⌋₊ : ℚ) + Int.fract v = v := by
  rw [natCast_floor_eq_intCast_floor nonneg, Int.floor_add_fract]

@[simp] theorem nearest_natCast (tie : Tie) (n : ℕ)
    : tie.nearest n = n := by
  rw [nearest, if_pos (.inl (by rw [Int.fract_natCast]; norm_num)), Nat.floor_natCast]

/-- Rounding a quotient rounds its value. -/
theorem nearest_div (tie : Tie) (n : ℕ) {d : ℕ} (positive : 0 < d)
    : tie.nearest (n / d) = roundDiv tie n d := by
  have divides : (0 : ℚ) < d := by exact_mod_cast positive
  have fract : Int.fract ((n : ℚ) / d) = (n % d : ℕ) / d := by
    rw [Int.fract_div_natCast_eq_div_natCast_mod]
  have below : (n % d : ℕ) / (d : ℚ) < 1 / 2 ↔ 2 * (n % d) < d := by
    rw [div_lt_div_iff₀ divides two_pos, one_mul, mul_comm]
    exact_mod_cast Iff.rfl
  have half : (n % d : ℕ) / (d : ℚ) = 1 / 2 ↔ 2 * (n % d) = d := by
    rw [div_eq_div_iff divides.ne' two_ne_zero, one_mul, mul_comm]
    exact_mod_cast Iff.rfl
  rw [nearest, roundDiv, fract, Nat.floor_div_eq_div]
  simp only [below, half]

/-- No natural number is nearer to a value than a half. -/
theorem abs_nearest_sub_le (tie : Tie) (nonneg : 0 ≤ v)
    : |(tie.nearest v : ℚ) - v| ≤ 1 / 2 := by
  have parts := natFloor_add_fract nonneg
  have lower := Int.fract_nonneg v
  have upper := Int.fract_lt_one v
  unfold nearest
  split
  · next down =>
    rw [abs_le]
    rcases down with down | down <;> constructor <;> linarith
  · next up =>
    have half : 1 / 2 ≤ Int.fract v := le_of_not_gt fun below => up (.inl below)
    push_cast
    rw [abs_le]
    constructor <;> linarith

/-- Half a unit below a natural number a value is rounded to a smaller one. -/
theorem nearest_lt {n : ℕ} (nonneg : 0 ≤ v) (below : v < n - 1 / 2)
    : tie.nearest v < n := by
  have near := abs_le.mp (tie.abs_nearest_sub_le nonneg)
  have : (tie.nearest v : ℚ) < n := by linarith
  exact_mod_cast this

/-- Half a unit above a natural number a value is rounded to a larger one. -/
theorem lt_nearest {n : ℕ} (above : n + 1 / 2 < v)
    : n < tie.nearest v := by
  have whole : (0 : ℚ) ≤ n := Nat.cast_nonneg n
  have near := abs_le.mp (tie.abs_nearest_sub_le (v := v) (by linarith))
  have : (n : ℚ) < tie.nearest v := by linarith
  exact_mod_cast this

/-- Less than half a unit away there is no other natural number to round to. -/
theorem nearest_eq {n : ℕ} (nonneg : 0 ≤ v) (near : |(n : ℚ) - v| < 1 / 2)
    : tie.nearest v = n := by
  obtain ⟨above, below⟩ := abs_lt.mp near
  have most : tie.nearest v < n + 1 := nearest_lt nonneg (by
    push_cast
    linarith)
  rcases n with _ | m
  · omega
  · have least : m < tie.nearest v := lt_nearest (by
      push_cast at below
      linarith)
    omega

/-- Rounding keeps the order: values rounded the wrong way round would be one and the same half. -/
theorem nearest_mono (nonneg : 0 ≤ v) (le : v ≤ w)
    : tie.nearest v ≤ tie.nearest w := by
  by_contra crossed
  push Not at crossed
  have step : (tie.nearest w : ℚ) + 1 ≤ tie.nearest v := by exact_mod_cast crossed
  have lower := abs_le.mp (tie.abs_nearest_sub_le nonneg)
  have upper := abs_le.mp (tie.abs_nearest_sub_le (nonneg.trans le))
  have same : v = w := by linarith
  subst same
  exact lt_irrefl _ crossed

/-- A value is not rounded below a natural number that it reaches. -/
theorem le_nearest {n : ℕ} (reached : (n : ℚ) ≤ v)
    : n ≤ tie.nearest v := by
  have order : tie.nearest n ≤ tie.nearest v := nearest_mono (Nat.cast_nonneg n) reached
  rwa [nearest_natCast] at order

/-- Rounding at most doubles: what is not rounded away is at least a half. -/
theorem nearest_le_two_mul (nonneg : 0 ≤ v)
    : (tie.nearest v : ℚ) ≤ 2 * v := by
  have parts := natFloor_add_fract nonneg
  have lower := Int.fract_nonneg v
  have whole : (0 : ℚ) ≤ ⌊v⌋₊ := Nat.cast_nonneg _
  unfold nearest
  split
  · linarith
  · next up =>
    have half : 1 / 2 ≤ Int.fract v := le_of_not_gt fun below => up (.inl below)
    push_cast
    linarith

/-- Half up a value reaches a natural number from half a unit below it. -/
theorem le_nearest_awayFromZero_iff {n : ℕ} (nonneg : 0 ≤ v)
    : n + 1 ≤ awayFromZero.nearest v ↔ n + 1 / 2 ≤ v := by
  refine ⟨fun reached => ?_, fun above => ?_⟩
  · by_contra below
    push Not at below
    have less : awayFromZero.nearest v < n + 1 := nearest_lt nonneg (by
      push_cast
      linarith)
    omega
  · have half : awayFromZero.nearest (n + 1 / 2) = n + 1 := by
      have value : ((n : ℚ) + 1 / 2) = (2 * n + 1 : ℕ) / (2 : ℕ) := by
        push_cast
        ring
      rw [value, nearest_div _ _ two_pos, roundDiv, if_neg (by simp [keeps])]
      omega
    rw [← half]
    exact nearest_mono (by positivity) above

/-- Half up the natural number falls short of a value by less than a half. -/
theorem lt_nearest_awayFromZero_add (nonneg : 0 ≤ v)
    : v < awayFromZero.nearest v + 1 / 2 := by
  by_contra above
  have reached := (le_nearest_awayFromZero_iff nonneg).mpr (not_lt.mp above)
  omega

-----------------------------------------------------------------------------------------
-- Places
-----------------------------------------------------------------------------------------

/-- The value rounded to some places, as its opposite is. -/
def rounded (tie : Tie) (places : ℕ) (v : ℚ) : ℚ :=
  if v < 0 then -(tie.nearest (|v| * tenPow places) / tenPow places)
  else tie.nearest (|v| * tenPow places) / tenPow places

theorem rounded_of_nonneg (tie : Tie) (places : ℕ) (nonneg : 0 ≤ v)
    : tie.rounded places v = tie.nearest (v * tenPow places) / tenPow places := by
  rw [rounded, if_neg (not_lt.mpr nonneg), abs_of_nonneg nonneg]

@[simp] theorem rounded_zero (tie : Tie) (places : ℕ)
    : tie.rounded places 0 = 0 := by
  rw [rounded_of_nonneg tie places le_rfl, zero_mul]
  have none := tie.nearest_natCast 0
  rw [Nat.cast_zero] at none
  rw [none, Nat.cast_zero, zero_div]

@[simp] theorem rounded_neg (tie : Tie) (places : ℕ) (v : ℚ)
    : tie.rounded places (-v) = -tie.rounded places v := by
  rcases lt_trichotomy v 0 with below | rfl | above
  · rw [rounded, rounded, if_neg (by linarith), if_pos below, abs_neg, neg_neg]
  · rw [neg_zero, rounded_zero, neg_zero]
  · rw [rounded, rounded, if_pos (by linarith), if_neg (by linarith), abs_neg]

theorem rounded_nonneg (tie : Tie) (places : ℕ) (nonneg : 0 ≤ v)
    : 0 ≤ tie.rounded places v := by
  have positive := Decimal.tenPow_cast_pos places
  rw [rounded_of_nonneg tie places nonneg]
  positivity

theorem abs_rounded (tie : Tie) (places : ℕ) (v : ℚ)
    : |tie.rounded places v| = tie.rounded places |v| := by
  rcases le_total 0 v with nonneg | nonpos
  · rw [abs_of_nonneg nonneg, abs_of_nonneg (tie.rounded_nonneg places nonneg)]
  · rw [abs_of_nonpos nonpos, rounded_neg, abs_of_nonpos]
    have opposite := tie.rounded_nonneg places (neg_nonneg.mpr nonpos)
    rw [rounded_neg] at opposite
    linarith

theorem rounded_mono {places : ℕ} (nonneg : 0 ≤ v) (le : v ≤ w)
    : tie.rounded places v ≤ tie.rounded places w := by
  have positive := Decimal.tenPow_cast_pos places
  rw [rounded_of_nonneg tie places nonneg, rounded_of_nonneg tie places (nonneg.trans le)]
  apply div_le_div_of_nonneg_right _ positive.le
  exact_mod_cast nearest_mono (by positivity) (mul_le_mul_of_nonneg_right le positive.le)

/-- A value that is a whole number in the last of the places is not rounded. -/
theorem rounded_of_exact {places n : ℕ} (exact : v * tenPow places = n)
    : tie.rounded places v = v := by
  have positive := Decimal.tenPow_cast_pos places
  have nonneg : 0 ≤ v :=
    nonneg_of_mul_nonneg_left (exact ▸ Nat.cast_nonneg n) positive
  rw [rounded_of_nonneg tie places nonneg, exact, nearest_natCast, ← exact]
  field_simp

theorem rounded_mul_tenPow (tie : Tie) (places : ℕ) (nonneg : 0 ≤ v)
    : tie.rounded places v * tenPow places = tie.nearest (v * tenPow places) := by
  have positive := Decimal.tenPow_cast_pos places
  rw [rounded_of_nonneg tie places nonneg]
  field_simp

/-- Rounding to some places moves a value by at most half a unit of the last of them. -/
theorem abs_rounded_sub_le (tie : Tie) (places : ℕ) (nonneg : 0 ≤ v)
    : |tie.rounded places v - v| * tenPow places ≤ 1 / 2 := by
  have positive := Decimal.tenPow_cast_pos places
  have near := tie.abs_nearest_sub_le (v := v * tenPow places) (by positivity)
  rw [← rounded_mul_tenPow tie places nonneg, ← sub_mul, abs_mul, abs_of_pos positive] at near
  exact near

theorem abs_rounded_le (tie : Tie) (places : ℕ) (v : ℚ)
    : |tie.rounded places v| ≤ 2 * |v| := by
  have positive := Decimal.tenPow_cast_pos places
  rw [abs_rounded, rounded_of_nonneg tie places (abs_nonneg v), div_le_iff₀ positive, mul_assoc]
  exact nearest_le_two_mul (by positivity)

end Tie

-----------------------------------------------------------------------------------------
-- Decimals
-----------------------------------------------------------------------------------------

namespace Decimal

theorem abs_toRat (x : Decimal)
    : |x.toRat| = x.magnitude / tenPow x.scale := by
  have positive := tenPow_cast_pos x.scale
  have magnitude : (x.magnitude : ℚ) = |(x.units : ℚ)| := by
    rw [← natAbs_units, Nat.cast_natAbs, Int.cast_abs]
  rw [toRat, Rat.mkRat_eq_div, abs_div, magnitude]
  exact congrArg (_ / ·) (abs_of_pos positive)

theorem toRat_of_negative {x : Decimal} (sign : x.negative = true)
    : x.toRat = -(x.magnitude / tenPow x.scale) := by
  rw [toRat, Rat.mkRat_eq_div, units, if_pos sign]
  push_cast
  exact neg_div _ _

theorem toRat_of_not_negative {x : Decimal} (sign : x.negative = false)
    : x.toRat = x.magnitude / tenPow x.scale := by
  rw [toRat, Rat.mkRat_eq_div, units, if_neg (by simp [sign])]
  push_cast
  rfl

theorem toRat_ofInt64 (n : Int64)
    : (ofInt64 n).toRat = n.toInt := by
  have units : (ofInt64 n).units = n.toInt := by
    simp only [units, ofInt64, decide_eq_true_eq]
    split <;> omega
  rw [toRat, Rat.mkRat_eq_div, units]
  exact div_one _

@[simp] theorem toRat_unsignZero (x : Decimal)
    : x.unsignZero.toRat = x.toRat := by
  rw [toRat, units_unsignZero]
  rfl

/-- A decimal that is cut is its value rounded. -/
theorem toRat_cut (tie : Tie) (places : ℕ) (x : Decimal)
    : (x.cut tie places).toRat = tie.rounded places x.toRat := by
  by_cases short : x.scale ≤ places
  · have exact
        : |x.toRat| * tenPow places = (x.magnitude * tenPow (places - x.scale) : ℕ) := by
      have positive := tenPow_cast_pos x.scale
      rw [abs_toRat, tenPow_split short]
      push_cast
      field_simp
    rw [cut, dif_pos short]
    have same : tie.rounded places |x.toRat| = |x.toRat| := Tie.rounded_of_exact exact
    rcases abs_choice x.toRat with sign | sign <;> rw [sign] at same
    · exact same.symm
    · rw [Tie.rounded_neg] at same
      exact (neg_injective same).symm
  · have kept := tenPow_cast_pos places
    have dropped := tenPow_cast_pos (x.scale - places)
    have counted
        : (x.magnitude : ℚ) / tenPow x.scale * tenPow places
          = x.magnitude / tenPow (x.scale - places) := by
      rw [tenPow_split (le_of_not_ge short)]
      push_cast
      field_simp
    have nonneg : (0 : ℚ) ≤ x.magnitude / tenPow x.scale :=
      div_nonneg (Nat.cast_nonneg _) (Nat.cast_nonneg _)
    have rounds
        : tie.rounded places (x.magnitude / tenPow x.scale)
          = roundDiv tie x.magnitude (tenPow (x.scale - places)) / tenPow places := by
      rw [Tie.rounded_of_nonneg tie places nonneg, counted, Tie.nearest_div _ _ (tenPow_pos _)]
    rw [cut, dif_neg short]
    cases sign : x.negative with
    | false => rw [toRat_of_not_negative sign, toRat_of_not_negative rfl, rounds]
    | true =>
        rw [toRat_of_negative sign, toRat_of_negative rfl, Tie.rounded_neg, rounds]

/-- A decimal that is rounded to places is its value rounded. -/
theorem toRat_round (tie : Tie) (places : ℕ) (x : Decimal)
    : (x.round tie places).toRat = tie.rounded places x.toRat := by
  unfold round
  split
  · exact toRat_cut tie places x
  · rw [toRat_unsignZero, toRat_cut]

/-- Rounding to places at most doubles a magnitude. -/
theorem abs_toRat_round_le (tie : Tie) (places : ℕ) (x : Decimal)
    : |(x.round tie places).toRat| ≤ 2 * |x.toRat| := by
  rw [toRat_round]
  exact tie.abs_rounded_le places x.toRat

end Decimal

end ChargeBasis

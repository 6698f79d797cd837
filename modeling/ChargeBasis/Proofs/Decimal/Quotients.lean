import ChargeBasis.Money.Quotient
import ChargeBasis.Proofs.Decimal.Division

/-!
Quotients rounded half up. A quotient is first brought to the places that there is room for and
then rounded half up. This is the exact quotient rounded once, unless the first step takes it onto
a half that it does not reach, or off a half that it is.
-/

namespace ChargeBasis

namespace Decimal

variable {v w : ℚ} {places k : ℕ}

-----------------------------------------------------------------------------------------
-- Halves
-----------------------------------------------------------------------------------------

/-- Halfway between `k` and `k + 1` units of the last of some places. -/
def halfway (places k : ℕ) : ℚ := (k + 1 / 2) / tenPow places

theorem halfway_le_iff
    : halfway places k ≤ v ↔ (k : ℚ) + 1 / 2 ≤ v * tenPow places :=
  div_le_iff₀ (tenPow_cast_pos places)

theorem lt_halfway_iff
    : v < halfway places k ↔ v * tenPow places < k + 1 / 2 :=
  lt_div_iff₀ (tenPow_cast_pos places)

theorem rounded_eq_iff {tie : Tie} (v_nonneg : 0 ≤ v) (w_nonneg : 0 ≤ w)
    : tie.rounded places v = tie.rounded places w
      ↔ tie.nearest (v * tenPow places) = tie.nearest (w * tenPow places) := by
  rw [Tie.rounded_of_nonneg tie places v_nonneg, Tie.rounded_of_nonneg tie places w_nonneg,
    div_left_inj' (tenPow_cast_pos places).ne', Nat.cast_inj]

/-- A value that reaches a half is rounded up beyond every value that does not. -/
theorem rounded_ne_of_halfway (v_nonneg : 0 ≤ v) (w_nonneg : 0 ≤ w)
    (below : v < halfway places k) (reached : halfway places k ≤ w)
    : Tie.awayFromZero.rounded places v ≠ Tie.awayFromZero.rounded places w := by
  have positive := tenPow_cast_pos places
  have up := (Tie.le_nearest_awayFromZero_iff (by positivity)).mpr (halfway_le_iff.mp reached)
  have down := mt (Tie.le_nearest_awayFromZero_iff (by positivity)).mp
    (not_le.mpr (lt_halfway_iff.mp below))
  rw [Ne, rounded_eq_iff v_nonneg w_nonneg]
  omega

/-- Values that are rounded differently have a half between them. -/
theorem exists_halfway_of_rounded_ne (v_nonneg : 0 ≤ v) (w_nonneg : 0 ≤ w)
    (differ
      : Tie.awayFromZero.rounded places v ≠ Tie.awayFromZero.rounded places w)
    : ∃ k,
        (v < halfway places k ∧ halfway places k ≤ w)
        ∨ (w < halfway places k ∧ halfway places k ≤ v) := by
  have positive := tenPow_cast_pos places
  have scaledV : 0 ≤ v * tenPow places := by positivity
  have scaledW : 0 ≤ w * tenPow places := by positivity
  rw [Ne, rounded_eq_iff v_nonneg w_nonneg] at differ
  simp only [← not_le, halfway_le_iff, ← Tie.le_nearest_awayFromZero_iff scaledV,
    ← Tie.le_nearest_awayFromZero_iff scaledW]
  rcases Nat.lt_or_gt_of_ne differ with less | more
  · exact ⟨Tie.awayFromZero.nearest (w * tenPow places) - 1, .inl (by omega)⟩
  · exact ⟨Tie.awayFromZero.nearest (v * tenPow places) - 1, .inr (by omega)⟩

/-- A half of some places is a whole number of units of any place behind them. -/
theorem halfway_mul_tenPow {more : ℕ} (longer : places < more)
    : halfway places k * tenPow more
      = ((2 * k + 1) * 5 * tenPow (more - (places + 1)) : ℕ) := by
  have positive := tenPow_cast_pos places
  rw [halfway, tenPow_split longer, tenPow_succ]
  push_cast
  field_simp
  ring

-----------------------------------------------------------------------------------------
-- Two roundings
-----------------------------------------------------------------------------------------

/-- Some decimal has the value. -/
def Representable (v : ℚ) : Prop := ∃ z : Decimal, z.toRat = v

/-- Bringing the value to the places that there is room for takes it onto a half that it does not
reach, or off a half that it is.
-/
def HidesTie (places : ℕ) (v : ℚ) : Prop :=
  ∃ k,
    (|v| < halfway places k ∧ |closest v| = halfway places k)
    ∨ (|v| = halfway places k ∧ |closest v| < halfway places k)

theorem hidesTie_abs
    : HidesTie places |v| ↔ HidesTie places v := by
  rw [HidesTie, HidesTie, abs_abs, ← abs_closest, abs_abs]

theorem closest_nonneg (nonneg : 0 ≤ v)
    : 0 ≤ closest v :=
  Tie.rounded_nonneg .toEven _ nonneg

theorem closest_mul_tenPow (nonneg : 0 ≤ v) {more : ℕ} (enough : placesFor v ≤ more)
    : closest v * tenPow more
      = (Tie.toEven.nearest (v * tenPow (placesFor v)) * tenPow (more - placesFor v) : ℕ) := by
  rw [closest, tenPow_split enough]
  push_cast
  rw [← mul_assoc, Tie.rounded_mul_tenPow _ _ nonneg]

/-- With fewer places than there is room for, halves are among the values that are not rounded:
none is crossed.
-/
theorem halfway_of_placesFor_gt (nonneg : 0 ≤ v) (room : places < placesFor v)
    : (v ≤ halfway places k → closest v ≤ halfway places k)
      ∧ (halfway places k ≤ v → halfway places k ≤ closest v) := by
  have same : Tie.toEven.rounded (placesFor v) (halfway places k) = halfway places k :=
    Tie.rounded_of_exact (halfway_mul_tenPow room)
  have half_nonneg : 0 ≤ halfway places k :=
    div_nonneg (by positivity) (Nat.cast_nonneg _)
  refine ⟨fun below => ?_, fun above => ?_⟩
  · exact (Tie.rounded_mono nonneg below).trans same.le
  · exact same.ge.trans (Tie.rounded_mono half_nonneg above)

/-- With the very places that there is room for, only a half is rounded to the wrong neighbour. -/
theorem halfway_of_placesFor_eq (nonneg : 0 ≤ v)
    : ¬(v < halfway (placesFor v) k ∧ halfway (placesFor v) k ≤ closest v)
      ∧ (closest v < halfway (placesFor v) k → halfway (placesFor v) k ≤ v →
          v = halfway (placesFor v) k) := by
  have positive := tenPow_cast_pos (placesFor v)
  have near := abs_le.mp (Tie.toEven.abs_nearest_sub_le (v := v * tenPow (placesFor v))
    (by positivity))
  have units := closest_mul_tenPow nonneg le_rfl
  rw [Nat.sub_self, tenPow_zero, mul_one] at units
  refine ⟨fun crossed => ?_, fun below reached => ?_⟩
  · have less := lt_halfway_iff.mp crossed.1
    have more := halfway_le_iff.mp crossed.2
    rw [units] at more
    have above : (k : ℚ) < Tie.toEven.nearest (v * tenPow (placesFor v)) := by linarith
    have next : (k : ℚ) + 1 ≤ Tie.toEven.nearest (v * tenPow (placesFor v)) := by
      exact_mod_cast above
    linarith
  · have less := lt_halfway_iff.mp below
    have more := halfway_le_iff.mp reached
    rw [units] at less
    have under : (Tie.toEven.nearest (v * tenPow (placesFor v)) : ℚ) < (k + 1 : ℕ) := by
      push_cast
      linarith
    have most : (Tie.toEven.nearest (v * tenPow (placesFor v)) : ℚ) ≤ k := by
      exact_mod_cast Nat.le_of_lt_succ (by exact_mod_cast under)
    rw [halfway, eq_div_iff positive.ne']
    linarith

/-- A value with no more places than there is room for is the closest to all values that are less
than half a unit away.
-/
theorem closest_eq_of_scale_le {r : ℚ} {scale units : ℕ} (nonneg : 0 ≤ v)
    (exact : r * tenPow scale = units) (short : scale ≤ placesFor v)
    (near : |r - v| * tenPow (placesFor v) < 1 / 2)
    : closest v = r := by
  have power := tenPow_cast_pos (placesFor v)
  have whole : r * tenPow (placesFor v) = (units * tenPow (placesFor v - scale) : ℕ) := by
    rw [tenPow_split short]
    push_cast
    rw [← mul_assoc, exact]
  rw [← abs_of_pos power, ← abs_mul, sub_mul, whole] at near
  have same : Tie.toEven.nearest (v * tenPow (placesFor v)) = _ :=
    Tie.nearest_eq (by positivity) near
  rw [closest, Tie.rounded_of_nonneg _ _ nonneg, same, ← whole]
  field_simp

/-- A decimal with more places than there is room for has fewer units than the limit, which the
value counted in them is rounded to: the decimal is smaller by at least half a unit.
-/
theorem half_le_of_placesFor_lt {r : ℚ} {scale units : ℕ} (nonneg : 0 ≤ v) (positive : 0 ≤ r)
    (exact : r * tenPow scale = units) (fits : units < limit) (within : scale ≤ maxScale)
    (long : placesFor v < scale)
    : 1 / 2 ≤ (v - r) * tenPow (placesFor v + 1) := by
  have full := limit_le_nearest_of_placesFor_lt (v := v) (Nat.lt_add_one _) (long.trans_le within)
  rw [abs_of_nonneg nonneg] at full
  have large : (limit : ℚ) - 1 / 2 ≤ v * tenPow (placesFor v + 1) := by
    by_contra less
    have below : Tie.toEven.nearest (v * tenPow (placesFor v + 1)) < limit :=
      Tie.nearest_lt (by positivity) (not_le.mp less)
    omega
  have bound : (units : ℚ) + 1 ≤ limit := by exact_mod_cast fits
  have fewer : ((tenPow (placesFor v + 1) : ℕ) : ℚ) ≤ tenPow scale := by
    exact_mod_cast Nat.pow_le_pow_right (by decide) long
  have counted := mul_le_mul_of_nonneg_left fewer positive
  rw [sub_mul]
  linarith

/-- With more places than there is room for, the value rounded once is a decimal only if it is the
one nearest to the value.
-/
theorem closest_eq_of_placesFor_lt (nonneg : 0 ≤ v) (few : placesFor v < places)
    (representable : Representable (Tie.awayFromZero.rounded places v))
    : closest v = Tie.awayFromZero.rounded places v := by
  obtain ⟨z, value⟩ := representable
  have near := Tie.awayFromZero.abs_rounded_sub_le places nonneg
  have rounded_nonneg := Tie.awayFromZero.rounded_nonneg places nonneg
  have strict := Tie.lt_nearest_awayFromZero_add (v := v * tenPow places) (by positivity)
  rw [← Tie.rounded_mul_tenPow _ _ nonneg] at strict
  generalize Tie.awayFromZero.rounded places v = r at *
  have exact : r * tenPow z.scale = z.magnitude := by
    have power := tenPow_cast_pos z.scale
    rw [← abs_of_nonneg rounded_nonneg, ← value, abs_toRat]
    field_simp
  have step : ((tenPow (placesFor v + 1) : ℕ) : ℚ) ≤ tenPow places := by
    exact_mod_cast Nat.pow_le_pow_right (by decide) few
  rcases Nat.lt_or_ge (placesFor v) z.scale with long | short
  · have apart := half_le_of_placesFor_lt nonneg rounded_nonneg exact z.magnitude_lt z.scale_le long
    have ahead : 0 ≤ v - r := nonneg_of_mul_nonneg_left (by linarith) (tenPow_cast_pos _)
    have further := mul_le_mul_of_nonneg_left step ahead
    rw [sub_mul] at further
    linarith
  · apply closest_eq_of_scale_le nonneg exact short
    have less := (mul_le_mul_of_nonneg_left step (abs_nonneg (r - v))).trans near
    rw [tenPow_succ] at less
    push_cast at less
    linarith

theorem rounded_closest_iff_of_nonneg (nonneg : 0 ≤ v)
    (representable : Representable (Tie.awayFromZero.rounded places v))
    : Tie.awayFromZero.rounded places (closest v) = Tie.awayFromZero.rounded places v
      ↔ ¬HidesTie places v := by
  have closest_nonneg := closest_nonneg nonneg
  simp only [HidesTie, abs_of_nonneg nonneg, abs_of_nonneg closest_nonneg]
  refine ⟨fun same => ?_, fun clear => ?_⟩
  · rintro ⟨k, ⟨below, half⟩ | ⟨half, below⟩⟩
    · exact rounded_ne_of_halfway nonneg closest_nonneg below half.ge same.symm
    · exact rounded_ne_of_halfway closest_nonneg nonneg below half.ge same
  · by_contra differ
    obtain ⟨k, crossed⟩ := exists_halfway_of_rounded_ne closest_nonneg nonneg differ
    rcases Nat.lt_trichotomy places (placesFor v) with fewer | rfl | more
    · obtain ⟨down, up⟩ := @halfway_of_placesFor_gt v places k nonneg fewer
      rcases crossed with ⟨below, reached⟩ | ⟨below, reached⟩
      · exact absurd (up reached) (not_le.mpr below)
      · exact clear ⟨k, .inl ⟨below, le_antisymm (down below.le) reached⟩⟩
    · obtain ⟨never, only⟩ := @halfway_of_placesFor_eq v k nonneg
      rcases crossed with ⟨below, reached⟩ | crossed
      · exact clear ⟨k, .inr ⟨only below reached, below⟩⟩
      · exact never crossed
    · apply differ
      rw [closest_eq_of_placesFor_lt nonneg more representable]
      exact Tie.rounded_of_exact (Tie.rounded_mul_tenPow _ _ nonneg)

/-- No tie is hidden if the halves above a value are further away than the first rounding goes. -/
theorem rounded_closest_of_gap (nonneg : 0 ≤ v) (room : places < placesFor v)
    (gap
      : ∀ k, v < halfway places k → 1 / 2 < (halfway places k - v) * tenPow (placesFor v))
    : Tie.awayFromZero.rounded places (closest v) = Tie.awayFromZero.rounded places v := by
  by_contra differ
  obtain ⟨k, ⟨below, reached⟩ | ⟨below, reached⟩⟩ :=
    exists_halfway_of_rounded_ne (closest_nonneg nonneg) nonneg differ
  · exact absurd ((halfway_of_placesFor_gt nonneg room).2 reached) (not_le.mpr below)
  · have near := Tie.toEven.abs_rounded_sub_le (placesFor v) nonneg
    have moved : halfway places k - v ≤ |closest v - v| :=
      (sub_le_sub_right reached v).trans (le_abs_self _)
    have counted := mul_le_mul_of_nonneg_right moved (tenPow_cast_pos (placesFor v)).le
    exact absurd ((gap k below).trans_le counted) (not_lt.mpr near)

/-- The sign of a value does not matter to both roundings. -/
theorem rounded_closest_of_abs
    (same
      : Tie.awayFromZero.rounded places (closest |v|) = Tie.awayFromZero.rounded places |v|)
    : Tie.awayFromZero.rounded places (closest v) = Tie.awayFromZero.rounded places v := by
  rcases abs_choice v with sign | sign <;> rw [sign] at same
  · exact same
  · rw [closest_neg, Tie.rounded_neg, Tie.rounded_neg] at same
    exact neg_injective same

theorem representable_neg
    : Representable (-v) ↔ Representable v := by
  have opposite : ∀ {w : ℚ}, Representable w → Representable (-w) := by
    rintro _ ⟨z, rfl⟩
    exact ⟨-z, z.toRat_neg⟩
  exact ⟨fun given => neg_neg v ▸ opposite given, opposite⟩

/-- Rounded half up the nearest decimal is the value rounded once, unless a tie is hidden. Fewer
places than there is room for, just as many and more are cases of their own.
-/
theorem rounded_closest_iff (representable : Representable (Tie.awayFromZero.rounded places v))
    : Tie.awayFromZero.rounded places (closest v) = Tie.awayFromZero.rounded places v
      ↔ ¬HidesTie places v := by
  rcases le_total 0 v with nonneg | nonpos
  · exact rounded_closest_iff_of_nonneg nonneg representable
  · have opposite := @rounded_closest_iff_of_nonneg (-v) places (neg_nonneg.mpr nonpos)
    simp only [closest_neg, Tie.rounded_neg, neg_inj, representable_neg] at opposite
    rw [opposite representable, ← hidesTie_abs, abs_neg, hidesTie_abs]

-----------------------------------------------------------------------------------------
-- Decimals
-----------------------------------------------------------------------------------------

/-- The nearest decimal is found and then rounded half up, unless none is near. -/
theorem divideHalfUp_spec (x : Decimal) {y : Decimal} (divisor : y.isZero = false) (places : ℕ)
    : (x.divideHalfUp y places = .error (.divisionOverflow x y)
        ∧ ¬InReach (x.toRat / y.toRat))
      ∨ ∃ z,
          x.divideHalfUp y places = .ok z
          ∧ InReach (x.toRat / y.toRat)
          ∧ z.scale ≤ places
          ∧ z.toRat = Tie.awayFromZero.rounded places (closest (x.toRat / y.toRat)) := by
  unfold divideHalfUp
  rcases x.div?_spec divisor with ⟨none, beyond⟩ | ⟨z, divided, reached, value⟩
  · rw [none]
    exact .inl ⟨rfl, beyond⟩
  · rw [divided]
    refine .inr ⟨_, rfl, reached, scale_round_le _ _ z, ?_⟩
    rw [toRat_round, value]

/-- Without a multiplicand only the division is left, unless the divisor is left out too. -/
theorem divideThenMultiply_none (x y : Decimal) (places : ℕ)
    : divideThenMultiply (some x) (some y) none places
      = if y.isZero then .ok x else x.divideHalfUp y places := by
  cases zero : y.isZero with
  | true =>
      have skipped : effective (some y) = none := by simp [effective, zero]
      rw [divideThenMultiply, skipped]
      rfl
  | false =>
      have divides : effective (some y) = some y := by simp [effective, zero]
      rw [divideThenMultiply, divides, if_neg Bool.false_ne_true]
      change x.divideHalfUp y places >>= Except.ok = _
      cases x.divideHalfUp y places <;> rfl

/-- Both roundings together at most double a magnitude twice. -/
theorem abs_rounded_closest_le (tie : Tie) (places : ℕ) (v : ℚ)
    : |tie.rounded places (closest v)| ≤ 4 * |v| := by
  have first := abs_closest_le v
  have second := tie.abs_rounded_le places (closest v)
  linarith

/-- A decimal can be divided by every number of at least two. -/
theorem exists_divideHalfUp (x : Decimal) {y : Decimal} (several : 2 ≤ |y.toRat|) (places : ℕ)
    : ∃ z,
        x.divideHalfUp y places = .ok z
        ∧ z.scale ≤ places
        ∧ z.toRat = Tie.awayFromZero.rounded places (closest (x.toRat / y.toRat)) := by
  have divisor : y.isZero = false := isZero_of_toRat_ne_zero (abs_pos.mp (by linarith))
  have size : |x.toRat| ≤ limit - 1 := by
    have power : (1 : ℚ) ≤ tenPow x.scale := by exact_mod_cast tenPow_pos x.scale
    have bound : (x.magnitude : ℚ) + 1 ≤ limit := by exact_mod_cast x.magnitude_lt
    rw [abs_toRat]
    linarith [div_le_self (Nat.cast_nonneg (α := ℚ) x.magnitude) power]
  have reached : InReach (x.toRat / y.toRat) := by
    have half : |x.toRat| / |y.toRat| ≤ |x.toRat| := div_le_self (abs_nonneg _) (by linarith)
    rw [InReach, abs_div]
    linarith
  rcases x.divideHalfUp_spec divisor places with ⟨_, beyond⟩ | ⟨z, divided, _, short, value⟩
  · exact absurd reached beyond
  · exact ⟨z, divided, short, value⟩

end Decimal

namespace Money

/-- Both ways of dividing round the decimal that is nearest to the quotient. They fail alike when
the quotient is out of reach, and differ in a zero divisor, which only the first refuses. The
decimal nearest to the quotient stands for it unless it hides a tie.
-/
theorem divideHalfUp_rounds_nearest (a : Money) (divisor : Decimal) (places : ℕ)
    : (divisor.isZero = true →
        a.divideHalfUp divisor places = .error (.divisionByZero a.amount)
        ∧ Decimal.divideThenMultiply (some a.amount) (some divisor) none places = .ok a.amount)
      ∧ (divisor.isZero = false → ¬Decimal.InReach (a.toRat / divisor.toRat) →
        a.divideHalfUp divisor places = .error (.divisionOverflow a.amount divisor)
        ∧ Decimal.divideThenMultiply (some a.amount) (some divisor) none places
          = .error (.divisionOverflow a.amount divisor))
      ∧ (divisor.isZero = false → Decimal.InReach (a.toRat / divisor.toRat) →
        ∃ z,
          a.divideHalfUp divisor places = .ok ⟨z⟩
          ∧ Decimal.divideThenMultiply (some a.amount) (some divisor) none places = .ok z
          ∧ z.scale ≤ places
          ∧ z.toRat
            = Tie.awayFromZero.rounded places (Decimal.closest (a.toRat / divisor.toRat))
          ∧ (Decimal.Representable (Tie.awayFromZero.rounded places (a.toRat / divisor.toRat)) →
              (z.toRat = Tie.awayFromZero.rounded places (a.toRat / divisor.toRat)
                ↔ ¬Decimal.HidesTie places (a.toRat / divisor.toRat)))) := by
  rw [Decimal.divideThenMultiply_none, divideHalfUp]
  refine ⟨fun zero => ?_, fun nonzero beyond => ?_, fun nonzero reached => ?_⟩
  · rw [if_pos zero, if_pos zero]
    exact ⟨rfl, rfl⟩
  · rw [if_neg (by simp [nonzero]), if_neg (by simp [nonzero])]
    rcases a.amount.divideHalfUp_spec nonzero places with ⟨failed, _⟩ | ⟨_, _, within, _⟩
    · rw [failed]
      exact ⟨rfl, rfl⟩
    · exact absurd within beyond
  · rw [if_neg (by simp [nonzero]), if_neg (by simp [nonzero])]
    rcases a.amount.divideHalfUp_spec nonzero places with
      ⟨_, beyond⟩ | ⟨z, divided, _, short, value⟩
    · exact absurd reached beyond
    · rw [divided]
      refine ⟨z, rfl, rfl, short, value, fun representable => ?_⟩
      rw [value]
      exact Decimal.rounded_closest_iff representable

/-- Ten divided by four and rounded to a whole number is three. -/
theorem divideHalfUp_rounds_nearest_ten_quarters
    : (⟨.ofInt64 10⟩ : Money).divideHalfUp (.ofInt64 4) 0 = .ok ⟨.ofInt64 3⟩
      ∧ (Decimal.ofInt64 3).toRat
        = Tie.awayFromZero.rounded 0 ((⟨.ofInt64 10⟩ : Money).toRat / (Decimal.ofInt64 4).toRat)
      ∧ ¬Decimal.HidesTie 0 ((⟨.ofInt64 10⟩ : Money).toRat / (Decimal.ofInt64 4).toRat) := by
  obtain ⟨z, divided, _, _, _, once⟩ :=
    (divideHalfUp_rounds_nearest ⟨.ofInt64 10⟩ (.ofInt64 4) 0).2.2 (by decide) (by decide +kernel)
  have three : (⟨.ofInt64 10⟩ : Money).divideHalfUp (.ofInt64 4) 0 = .ok ⟨.ofInt64 3⟩ := by
    decide +kernel
  have rounded
      : (Decimal.ofInt64 3).toRat
        = Tie.awayFromZero.rounded 0 ((⟨.ofInt64 10⟩ : Money).toRat / (Decimal.ofInt64 4).toRat) := by
    decide +kernel
  cases three.symm.trans divided
  exact ⟨three, rounded, (once ⟨_, rounded⟩).mp rounded⟩

/-- A quotient just below a half is brought to the half and then rounded up, so that it is not the
exact quotient rounded once.
-/
theorem not_forall_divideHalfUp_rounds_once
    : ¬∀ (a : Money) (divisor : Decimal) (places : ℕ) (z : Money),
        places ≤ 28 → divisor.isZero = false → Decimal.InReach (a.toRat / divisor.toRat) →
        Decimal.Representable (Tie.awayFromZero.rounded places (a.toRat / divisor.toRat)) →
        a.divideHalfUp divisor places = .ok z →
        z.toRat = Tie.awayFromZero.rounded places (a.toRat / divisor.toRat) := by
  intro once
  have value := once
    ⟨⟨false, 39614081257132168796771975167, 0, by decide, by decide⟩⟩
    ⟨false, 79228162514264337593543950335, 0, by decide, by decide⟩ 0 .one
    (by decide) (by decide) (by decide +kernel) ⟨.zero, by decide +kernel⟩ (by decide +kernel)
  exact absurd value (by decide +kernel)

end Money

end ChargeBasis

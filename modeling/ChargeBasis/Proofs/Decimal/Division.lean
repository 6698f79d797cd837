import ChargeBasis.Decimal.Division
import ChargeBasis.Proofs.Decimal.Rounding

/-!
What a division comes to. Extending a quotient digit by digit ends with the value that has as many
places as fit and is nearest to the exact quotient, a half going to the even neighbour; it ends
without a result exactly when even the whole number nearest to the quotient is too long.
-/

namespace ChargeBasis.Decimal

variable {v : ℚ} {divisor units remainder scale : ℕ}

-----------------------------------------------------------------------------------------
-- The decimal nearest to a value
-----------------------------------------------------------------------------------------

/-- The value is less than half a unit beyond the largest decimal. -/
def InReach (v : ℚ) : Prop := |v| < limit - 1 / 2

instance (v : ℚ) : Decidable (InReach v) :=
  inferInstanceAs (Decidable (_ < _))

/-- Rounded to a whole number the values in reach stay below the limit; half a unit below it they
go to the even neighbour, which is the limit.
-/
theorem inReach_iff
    : InReach v ↔ Tie.toEven.nearest |v| < limit := by
  refine ⟨Tie.nearest_lt (abs_nonneg v), fun below => ?_⟩
  by_contra beyond
  have half : Tie.toEven.nearest ((2 * limit - 1 : ℕ) / (2 : ℕ)) = limit :=
    (Tie.nearest_div .toEven (2 * limit - 1) two_pos).trans (by decide)
  have least : ((2 * limit - 1 : ℕ) : ℚ) / (2 : ℕ) ≤ |v| := by
    rw [InReach, not_lt] at beyond
    norm_num [limit] at beyond ⊢
    exact beyond
  have reached : Tie.toEven.nearest _ ≤ Tie.toEven.nearest |v| :=
    Tie.nearest_mono (by positivity) least
  omega

/-- The most places that leave room for the value. -/
def placesFor (v : ℚ) : ℕ :=
  Nat.findGreatest (fun places => Tie.toEven.nearest (|v| * tenPow places) < limit) maxScale

/-- The value with as many places as there is room for, a half going to the even neighbour. -/
def closest (v : ℚ) : ℚ := Tie.toEven.rounded (placesFor v) v

/-- There is no room for more places than those that a value has. -/
theorem limit_le_nearest_of_placesFor_lt {places : ℕ} (more : placesFor v < places)
    (within : places ≤ maxScale)
    : limit ≤ Tie.toEven.nearest (|v| * tenPow places) :=
  Nat.le_of_not_lt
    (Nat.findGreatest_is_greatest
      (P := fun places => Tie.toEven.nearest (|v| * tenPow places) < limit) more within)

@[simp] theorem placesFor_neg (v : ℚ)
    : placesFor (-v) = placesFor v := by
  simp only [placesFor, abs_neg]

@[simp] theorem closest_neg (v : ℚ)
    : closest (-v) = -closest v := by
  rw [closest, closest, placesFor_neg, Tie.rounded_neg]

theorem inReach_abs
    : InReach |v| ↔ InReach v := by
  rw [InReach, InReach, abs_abs]

theorem abs_closest (v : ℚ)
    : |closest v| = closest |v| := by
  rw [closest, closest, Tie.abs_rounded, placesFor, placesFor, abs_abs]

theorem abs_closest_le (v : ℚ)
    : |closest v| ≤ 2 * |v| :=
  Tie.abs_rounded_le .toEven _ v

/-- More places make more units. -/
theorem nearest_mul_tenPow_mono {places : ℕ} (nonneg : 0 ≤ v) (fewer : scale ≤ places)
    : Tie.toEven.nearest (v * tenPow scale) ≤ Tie.toEven.nearest (v * tenPow places) := by
  have power : (tenPow scale : ℚ) ≤ tenPow places := by
    exact_mod_cast Nat.pow_le_pow_right (by decide) fewer
  exact Tie.nearest_mono (by positivity) (mul_le_mul_of_nonneg_left power nonneg)

theorem inReach_of_nearest_lt (nonneg : 0 ≤ v)
    (fits : Tie.toEven.nearest (v * tenPow scale) < limit)
    : InReach v := by
  have fewer := nearest_mul_tenPow_mono nonneg (Nat.zero_le scale)
  rw [tenPow_zero, Nat.cast_one, mul_one] at fewer
  rw [inReach_iff, abs_of_nonneg nonneg]
  exact fewer.trans_lt fits

theorem not_inReach_of_le (large : (limit : ℚ) ≤ v)
    : ¬InReach v := by
  rw [InReach, abs_of_nonneg ((Nat.cast_nonneg limit).trans large)]
  linarith

/-- The places of a value are those behind which there is no room for another one. -/
theorem placesFor_eq (nonneg : 0 ≤ v) (places : scale ≤ maxScale)
    (fits : Tie.toEven.nearest (v * tenPow scale) < limit)
    (full : scale = maxScale ∨ limit ≤ Tie.toEven.nearest (v * tenPow (scale + 1)))
    : placesFor v = scale := by
  rw [placesFor, abs_of_nonneg nonneg, Nat.findGreatest_eq_iff]
  refine ⟨places, fun _ => fits, fun {more} longer within => ?_⟩
  rcases full with last | full
  · omega
  · exact not_lt.mpr (full.trans (nearest_mul_tenPow_mono nonneg longer))

/-- A value that is a whole number of units is its own decimal. -/
theorem closest_of_exact (short : units < limit) (places : scale ≤ maxScale)
    (exact : v * tenPow scale = units)
    : InReach v ∧ closest v = v := by
  have nonneg : 0 ≤ v :=
    nonneg_of_mul_nonneg_left (exact ▸ Nat.cast_nonneg units) (tenPow_cast_pos scale)
  have fits : Tie.toEven.nearest (|v| * tenPow scale) < limit := by
    rwa [abs_of_nonneg nonneg, exact, Tie.nearest_natCast]
  have enough : scale ≤ placesFor v := Nat.le_findGreatest places fits
  refine ⟨inReach_of_nearest_lt nonneg (abs_of_nonneg nonneg ▸ fits), ?_⟩
  refine Tie.rounded_of_exact (n := units * tenPow (placesFor v - scale)) ?_
  rw [← Nat.add_sub_cancel' enough, tenPow_add, Nat.add_sub_cancel_left]
  push_cast
  rw [← mul_assoc, exact]

-----------------------------------------------------------------------------------------
-- Quotients
-----------------------------------------------------------------------------------------

namespace Quotient

/-- The magnitude that a quotient stands for. -/
def value (q : Quotient) : ℚ := q.units / tenPow q.scale

/-- The quotient is within the bounds of a decimal. -/
structure Fits (q : Quotient) : Prop where
  units_lt : q.units < limit
  scale_le : q.scale ≤ maxScale

/-- A value settles what a division comes to: the decimal nearest to it, or nothing if there is
none.
-/
def Settles (v : ℚ) : Option Quotient → Prop
  | none => ¬InReach v
  | some q => InReach v ∧ q.Fits ∧ q.value = closest v

theorem dropZeros_of_fits (digits : Nat) {q : Quotient} (fits : q.Fits)
    : (q.dropZeros digits).Fits ∧ (q.dropZeros digits).value = q.value := by
  unfold dropZeros
  split
  · next zeros =>
    simp only [endsInZeros, Bool.and_eq_true, beq_iff_eq, decide_eq_true_eq] at zeros
    obtain ⟨⟨divisible, within⟩, _⟩ := zeros
    refine ⟨⟨(Nat.div_le_self _ _).trans_lt fits.units_lt,
      (Nat.sub_le _ _).trans fits.scale_le⟩, ?_⟩
    have whole : q.units = q.units / tenPow digits * tenPow digits :=
      (Nat.div_mul_cancel (Nat.dvd_of_mod_eq_zero divisible)).symm
    have positive := tenPow_cast_pos digits
    rw [value, value, tenPow_split within, mul_comm (tenPow digits)]
    conv_rhs => rw [whole]
    push_cast
    rw [mul_div_mul_right _ _ positive.ne']
  · exact ⟨fits, rfl⟩

/-- Taking zeros from the end leaves the value. -/
theorem trim_of_fits {q : Quotient} (fits : q.Fits)
    : q.trim.Fits ∧ q.trim.value = q.value := by
  unfold trim
  generalize [8, 8, 8, 4, 2, 1] = steps
  induction steps generalizing q with
  | nil => exact ⟨fits, rfl⟩
  | cons digits rest ih =>
      obtain ⟨dropped, same⟩ := dropZeros_of_fits digits fits
      obtain ⟨trimmed, value⟩ := ih dropped
      exact ⟨trimmed, value.trans same⟩

theorem Settles.trim {outcome : Option Quotient} (settles : Settles v outcome)
    : Settles v (outcome.map Quotient.trim) := by
  cases outcome with
  | none => exact settles
  | some q =>
      obtain ⟨reached, fits, value⟩ := settles
      obtain ⟨trimmed, same⟩ := trim_of_fits fits
      exact ⟨reached, trimmed, same.trans value⟩

/-- A value that is a whole number of units settles a quotient with these units. -/
theorem settles_exact (short : units < limit) (places : scale ≤ maxScale)
    (exact : v * tenPow scale = units)
    : Settles v (some ⟨units, scale⟩) := by
  obtain ⟨reached, same⟩ := closest_of_exact short places exact
  have positive := tenPow_cast_pos scale
  refine ⟨reached, ⟨short, places⟩, ?_⟩
  rw [same, value, ← exact]
  field_simp

/-- A value settles a quotient that is rounded in the last place that there is room for. -/
theorem settles_rounded (nonneg : 0 ≤ v) (places : scale ≤ maxScale)
    (fits : Tie.toEven.nearest (v * tenPow scale) < limit)
    (full : scale = maxScale ∨ limit ≤ Tie.toEven.nearest (v * tenPow (scale + 1)))
    : Settles v (some ⟨Tie.toEven.nearest (v * tenPow scale), scale⟩) := by
  refine ⟨inReach_of_nearest_lt nonneg fits, ⟨fits, places⟩, ?_⟩
  rw [closest, placesFor_eq nonneg places fits full, Tie.rounded_of_nonneg _ _ nonneg]
  rfl

-----------------------------------------------------------------------------------------
-- Steps of a division
-----------------------------------------------------------------------------------------

/-- The units and the remainder of a division together are the value, counted in units that can be
tens or more.
-/
def Counts (v : ℚ) (divisor units remainder : ℕ) (scale : ℤ) : Prop :=
  (units : ℚ) + remainder / divisor = v * 10 ^ scale

theorem counts_natCast
    : Counts v divisor units remainder scale
      ↔ v * tenPow scale = units + remainder / divisor := by
  rw [Counts, tenPow_cast, zpow_natCast]
  exact eq_comm

theorem Counts.nonneg {scale : ℤ} (counts : Counts v divisor units remainder scale)
    : 0 ≤ v := by
  have parts : (0 : ℚ) ≤ units + remainder / divisor := by positivity
  rw [counts] at parts
  exact nonneg_of_mul_nonneg_left parts (by positivity)

/-- Without its places a quotient is no smaller, and tens make it larger still. -/
theorem Counts.le {scale : ℤ} (counts : Counts v divisor units remainder scale) {digits : ℕ}
    (tens : scale + digits ≤ 0)
    : ((units * tenPow digits : ℕ) : ℚ) ≤ v := by
  have power : (10 : ℚ) ^ scale * tenPow digits ≤ 1 := by
    have shifted : (10 : ℚ) ^ scale * tenPow digits = 10 ^ (scale + digits) := by
      rw [zpow_add₀ (by norm_num), zpow_natCast, tenPow_cast]
    rw [shifted]
    exact zpow_le_one_of_nonpos₀ (by norm_num) tens
  have part : (0 : ℚ) ≤ (remainder : ℚ) / divisor := by positivity
  calc ((units * tenPow digits : ℕ) : ℚ)
      ≤ (units + remainder / divisor) * tenPow digits := by
        push_cast
        exact mul_le_mul_of_nonneg_right (by linarith) (Nat.cast_nonneg _)
    _ = v * (10 ^ scale * tenPow digits) := by rw [counts, mul_assoc]
    _ ≤ v := mul_le_of_le_one_right counts.nonneg power

/-- Extending a quotient by digits leaves the value that it and its remainder stand for. -/
theorem Counts.extend {scale : ℤ} (counts : Counts v divisor units remainder scale)
    (positive : 0 < divisor) (digits : ℕ)
    : Counts v divisor (units * tenPow digits + remainder * tenPow digits / divisor)
        (remainder * tenPow digits % divisor) (scale + digits) := by
  have divides : (divisor : ℚ) ≠ 0 := by exact_mod_cast positive.ne'
  have parts
      : ((remainder * tenPow digits / divisor : ℕ) : ℚ)
          + (remainder * tenPow digits % divisor : ℕ) / divisor
        = remainder * tenPow digits / divisor := by
    rw [eq_div_iff divides, add_mul, div_mul_cancel₀ _ divides]
    exact_mod_cast Nat.div_add_mod' (remainder * tenPow digits) divisor
  rw [Counts, Nat.cast_add, add_assoc, parts, zpow_add₀ (by norm_num), ← mul_assoc, ← counts,
    zpow_natCast, ← tenPow_cast]
  push_cast
  ring

/-- More than five units of the last place are more than a half of the one before it, and so are
five with a remainder.
-/
theorem roundsUp_iff (part : remainder < divisor)
    : (5 < units % 10 || (units % 10 == 5 && (remainder != 0 || units / 10 % 2 == 1))) = true
      ↔ ¬(2 * (divisor * (units % 10) + remainder) < divisor * 10
          ∨ (2 * (divisor * (units % 10) + remainder) = divisor * 10
            ∧ Tie.toEven.keeps (units / 10) = true)) := by
  simp only [Tie.keeps, Bool.or_eq_true, Bool.and_eq_true, decide_eq_true_eq, beq_iff_eq,
    bne_iff_ne]
  rcases Nat.lt_trichotomy (units % 10) 5 with less | five | more
  · have below : divisor * (units % 10) ≤ divisor * 4 := Nat.mul_le_mul_left _ (by omega)
    omega
  · rw [five]
    omega
  · have above : divisor * 6 ≤ divisor * (units % 10) := Nat.mul_le_mul_left _ (by omega)
    omega

/-- A place is given up by rounding to the place before it. -/
theorem giveUpPlace_eq (part : remainder < divisor) (scale : ℕ)
    : giveUpPlace units remainder (scale + 1 : ℕ)
      = some ⟨roundDiv .toEven (units * divisor + remainder) (divisor * 10), scale⟩ := by
  have positive : 0 < divisor := (Nat.zero_le _).trans_lt part
  have whole : (units * divisor + remainder) / (divisor * 10) = units / 10 := by
    rw [← Nat.div_div_eq_div_mul, Nat.mul_comm, Nat.mul_add_div positive,
      Nat.div_eq_of_lt part, Nat.add_zero]
  have rest
      : (units * divisor + remainder) % (divisor * 10) = divisor * (units % 10) + remainder := by
    rw [Nat.mod_mul, Nat.mul_comm units, Nat.mul_add_mod, Nat.mod_eq_of_lt part,
      Nat.mul_add_div positive, Nat.div_eq_of_lt part, Nat.add_zero, Nat.add_comm]
  have last : ((scale + 1 : ℕ) - 1 : ℤ).toNat = scale := by omega
  have same := @roundsUp_iff divisor units remainder part
  rw [giveUpPlace, if_neg (by omega), roundDiv, whole, rest, last]
  simp only
  split
  · next up => rw [if_neg (same.mp up)]
  · next down => rw [if_pos (not_not.mp (mt same.mpr down))]

/-- Giving up a place settles a quotient that is one digit too long for it. -/
theorem settles_giveUpPlace {scale : ℤ} (part : remainder < divisor)
    (counts : Counts v divisor units remainder scale) (long : limit ≤ units)
    (bounded : units < 2 * limit) (places : scale ≤ maxScale)
    : Settles v (giveUpPlace units remainder scale) := by
  by_cases none : scale ≤ 0
  · rw [giveUpPlace, if_pos none]
    apply not_inReach_of_le
    have large : ((units * tenPow 0 : ℕ) : ℚ) ≤ v := counts.le (by omega)
    rw [tenPow_zero, Nat.mul_one] at large
    exact (Nat.cast_le.mpr long).trans large
  · obtain ⟨fewer, rfl⟩ : ∃ fewer : ℕ, scale = (fewer + 1 : ℕ) := ⟨(scale - 1).toNat, by omega⟩
    have positive : 0 < divisor := (Nat.zero_le _).trans_lt part
    have divides : (0 : ℚ) < divisor := by exact_mod_cast positive
    have counted := counts_natCast.mp counts
    have shorter
        : v * tenPow fewer = (units * divisor + remainder : ℕ) / (divisor * 10 : ℕ) := by
      rw [tenPow_succ] at counted
      push_cast at counted ⊢
      field_simp at counted ⊢
      linarith
    have rounded := Tie.nearest_div .toEven (units * divisor + remainder) (d := divisor * 10)
      (by omega)
    rw [← shorter] at rounded
    have fits : Tie.toEven.nearest (v * tenPow fewer) < limit := by
      have next := roundDiv_le_succ .toEven (units * divisor + remainder) (divisor * 10)
      rw [← Nat.div_div_eq_div_mul, Nat.mul_comm, Nat.mul_add_div positive,
        Nat.div_eq_of_lt part, Nat.add_zero] at next
      rw [rounded, Nat.mul_comm units]
      unfold limit at bounded ⊢
      omega
    have full : limit ≤ Tie.toEven.nearest (v * tenPow (fewer + 1)) := by
      have below : (units : ℚ) ≤ v * tenPow (fewer + 1) := by
        rw [counted]
        exact le_add_of_nonneg_right (by positivity)
      exact long.trans (Tie.le_nearest below)
    rw [giveUpPlace_eq part, ← rounded]
    exact settles_rounded counts.nonneg (by omega) fits (.inr full)

/-- Between the largest units and the limit there is one multiple of ten to round to. -/
theorem nearest_div_ten_of_limit (above : limit - 1 / 2 ≤ v) (below : v ≤ limit)
    : Tie.toEven.nearest (v / 10) = roundDiv .toEven limit 10 := by
  have lower
      : Tie.toEven.nearest ((2 * limit - 1 : ℕ) / (20 : ℕ)) = roundDiv .toEven limit 10 :=
    (Tie.nearest_div .toEven (2 * limit - 1) (by decide)).trans (by decide)
  have upper := Tie.nearest_div .toEven limit (d := 10) (by decide)
  have positive : (0 : ℚ) ≤ (2 * limit - 1 : ℕ) / (20 : ℕ) := by positivity
  have least : ((2 * limit - 1 : ℕ) : ℚ) / (20 : ℕ) ≤ v / 10 := by
    norm_num [limit] at above ⊢
    linarith
  have most : v / 10 ≤ (limit : ℚ) / (10 : ℕ) := by
    norm_num [limit] at below ⊢
    linarith
  apply Nat.le_antisymm
  · exact (Tie.nearest_mono (positive.trans least) most).trans upper.le
  · exact lower.ge.trans (Tie.nearest_mono positive least)

/-- Giving up a place settles a quotient that is rounded to the limit. -/
theorem settles_giveUpPlace_limit (nonneg : 0 ≤ v) (places : scale ≤ maxScale)
    (all : Tie.toEven.nearest (v * tenPow scale) = limit) (most : v * tenPow scale ≤ limit)
    : Settles v (giveUpPlace limit 0 scale) := by
  cases scale with
  | zero =>
      rw [tenPow_zero, Nat.cast_one, mul_one] at all
      rw [giveUpPlace, if_pos (by omega)]
      change ¬InReach v
      rw [inReach_iff, abs_of_nonneg nonneg, all]
      exact lt_irrefl _
  | succ fewer =>
      have near := abs_le.mp
        (Tie.toEven.abs_nearest_sub_le (v := v * tenPow (fewer + 1)) (by positivity))
      rw [all] at near
      have ten : v * tenPow (fewer + 1) / 10 = v * tenPow fewer := by
        rw [tenPow_succ]
        push_cast
        field_simp
      have shorter := nearest_div_ten_of_limit (v := v * tenPow (fewer + 1)) (by linarith) most
      rw [ten] at shorter
      have fits : Tie.toEven.nearest (v * tenPow fewer) < limit := by
        rw [shorter]
        decide
      rw [giveUpPlace_eq one_pos, mul_one, add_zero, one_mul, ← shorter]
      exact settles_rounded nonneg (by omega) fits (.inr all.ge)

/-- Rounding in the last place settles a quotient that has no room for another digit. -/
theorem settles_roundLast (part : remainder < divisor)
    (counts : Counts v divisor units remainder scale) (short : units < limit)
    (places : scale ≤ maxScale) (full : scale = maxScale ∨ limit ≤ units * 10)
    : Settles v (roundLast units remainder divisor scale) := by
  have positive : 0 < divisor := (Nat.zero_le _).trans_lt part
  have divides : (0 : ℚ) < divisor := by exact_mod_cast positive
  have nonneg := counts.nonneg
  have counted := counts_natCast.mp counts
  have quotient : v * tenPow scale = (units * divisor + remainder : ℕ) / (divisor : ℕ) := by
    rw [counted]
    push_cast
    field_simp
  have rounded := Tie.nearest_div .toEven (units * divisor + remainder) positive
  rw [← quotient] at rounded
  have below : (units : ℚ) ≤ v * tenPow scale := by
    rw [counted]
    exact le_add_of_nonneg_right (by positivity)
  simp only [roundLast, Int.toNat_natCast]
  rw [← rounded]
  split
  · next fits =>
    refine settles_rounded nonneg places fits (full.imp_right fun full => ?_)
    have longer : ((units * 10 : ℕ) : ℚ) ≤ v * tenPow (scale + 1) := by
      rw [tenPow_succ]
      push_cast
      linarith
    exact full.trans (Tie.le_nearest longer)
  · next long =>
    -- the last place is carried over, and that can only be to the limit itself
    have part_lt : (remainder : ℚ) / divisor < 1 := by
      rw [div_lt_one divides]
      exact_mod_cast part
    have whole : (units : ℚ) + 1 ≤ limit := by exact_mod_cast short
    have most : v * tenPow scale ≤ limit := by linarith
    have all : Tie.toEven.nearest (v * tenPow scale) = limit := by
      apply Nat.le_antisymm _ (Nat.le_of_not_lt long)
      have order : _ ≤ Tie.toEven.nearest (limit : ℚ) := Tie.nearest_mono (by positivity) most
      rwa [Tie.nearest_natCast] at order
    rw [all]
    exact settles_giveUpPlace_limit nonneg places all most

-----------------------------------------------------------------------------------------
-- Whole divisions
-----------------------------------------------------------------------------------------

/-- Digits are only put where there is room for them. -/
theorem mul_tenPow_room_lt {cap : ℕ} (some_room : room units cap ≠ 0)
    : units * tenPow (room units cap) < limit := by
  induction cap with
  | zero => exact absurd rfl some_room
  | succ cap ih =>
      unfold room at some_room ⊢
      split
      · next fits => exact fits
      · next full =>
        rw [if_neg full] at some_room
        exact ih some_room

/-- Up to the cap all the room is taken. -/
theorem limit_le_of_room_lt {cap : ℕ} (less : room units cap < cap)
    : limit ≤ units * tenPow (room units cap + 1) := by
  induction cap with
  | zero => exact absurd less (Nat.not_lt_zero _)
  | succ cap ih =>
      unfold room at less ⊢
      split
      · next fits =>
        rw [if_pos fits] at less
        exact absurd less (lt_irrefl _)
      · next full =>
        rcases (room_le units cap).eq_or_lt with all | fewer
        · rw [all]
          exact Nat.le_of_not_lt full
        · exact ih fewer

/-- Extended by the digits that there is room for, a quotient is at most slightly too long. -/
theorem extend_lt {digits : ℕ} (part : remainder < divisor)
    (kept : units * tenPow digits < limit) (few : digits ≤ 9)
    : units * tenPow digits + remainder * tenPow digits / divisor < 2 * limit := by
  have added : remainder * tenPow digits / divisor ≤ tenPow digits :=
    Nat.div_le_of_le_mul (Nat.mul_le_mul_right _ part.le)
  have power : tenPow digits ≤ tenPow 9 := Nat.pow_le_pow_right (by decide) few
  have nine : tenPow 9 < limit := by decide
  omega

/-- A value settles its division, from whatever part of the quotient is known. The recursion
follows the places that are left.
-/
theorem settles_settle {v : ℚ} {divisor units remainder : ℕ} {scale : ℤ}
    (part : remainder < divisor) (short : units < limit) (places : scale ≤ maxScale)
    (extended : Bool) (counts : Counts v divisor units remainder scale)
    : Settles v (settle divisor units remainder scale extended) := by
  have positive : 0 < divisor := (Nat.zero_le _).trans_lt part
  rw [settle]
  split
  · next exact =>
    subst exact
    split
    · next whole =>
      obtain ⟨scale, rfl⟩ := Int.eq_ofNat_of_zero_le whole
      have counted := counts_natCast.mp counts
      rw [Nat.cast_zero, zero_div, add_zero] at counted
      have settled := settles_exact short (by omega) counted
      cases extended with
      | false => exact settled
      | true => exact settled.trim
    · next tens =>
      simp only
      split
      · next long =>
        exact not_inReach_of_le ((Nat.cast_le.mpr long).trans (counts.le (by omega)))
      · next fits =>
        have longer := counts.extend positive (min 9 (-scale).toNat)
        rw [Nat.zero_mul, Nat.zero_div, Nat.add_zero, Nat.zero_mod] at longer
        exact settles_settle positive (Nat.lt_of_not_le fits) (by omega) extended longer
  · simp only
    have cap := room_le units (min 9 (28 - scale).toNat)
    have kept := @mul_tenPow_room_lt units (min 9 (28 - scale).toNat)
    have taken := @limit_le_of_room_lt units (min 9 (28 - scale).toNat)
    generalize room units (min 9 (28 - scale).toNat) = digits at cap kept taken ⊢
    have within : scale + digits ≤ maxScale := by
      unfold maxScale at places ⊢
      omega
    split
    · next early =>
      have long := taken (by omega)
      exact not_inReach_of_le ((Nat.cast_le.mpr long).trans (counts.le (by omega)))
    · next reached =>
      split
      · next none =>
        subst none
        obtain ⟨scale, rfl⟩ := Int.eq_ofNat_of_zero_le (a := scale) (by omega)
        refine (settles_roundLast part counts short (by omega) ?_).trim
        by_cases last : scale = maxScale
        · exact .inl last
        · refine .inr (taken ?_)
          unfold maxScale at places last
          omega
      · next some_digits =>
        have longer := counts.extend positive digits
        split
        · next long =>
          -- one digit too many: the last place is given up again
          exact (settles_giveUpPlace (Nat.mod_lt _ positive) longer long
            (extend_lt part (kept some_digits) (by omega)) within).trim
        · next fits =>
          exact settles_settle (Nat.mod_lt _ positive) (Nat.lt_of_not_le fits) within true longer
  termination_by (28 - scale).toNat
  decreasing_by all_goals omega

end Quotient

/-- A quotient is below zero when exactly one of the two numbers has a sign. -/
theorem toRat_div (x y : Decimal)
    : x.toRat / y.toRat
      = if x.negative != y.negative then -(|x.toRat| / |y.toRat|) else |x.toRat| / |y.toRat| := by
  rw [abs_toRat, abs_toRat]
  cases hx : x.negative <;> cases hy : y.negative <;>
    simp [toRat_of_negative, toRat_of_not_negative, hx, hy, neg_div, div_neg]

/-- The division of the units starts with all of the quotient. -/
theorem counts_units (x : Decimal) {y : Decimal} (divisor : y.isZero = false)
    : Quotient.Counts (|x.toRat| / |y.toRat|) y.magnitude (x.magnitude / y.magnitude)
        (x.magnitude % y.magnitude) (x.scale - y.scale) := by
  have some : y.magnitude ≠ 0 := by simpa [isZero] using divisor
  have divides : (y.magnitude : ℚ) ≠ 0 := by exact_mod_cast some
  have parts
      : ((x.magnitude / y.magnitude : ℕ) : ℚ) + (x.magnitude % y.magnitude : ℕ) / y.magnitude
        = x.magnitude / y.magnitude := by
    rw [eq_div_iff divides, add_mul, div_mul_cancel₀ _ divides]
    exact_mod_cast Nat.div_add_mod' x.magnitude y.magnitude
  rw [Quotient.Counts, parts, abs_toRat, abs_toRat, zpow_sub₀ (by norm_num), zpow_natCast,
    zpow_natCast, tenPow_cast, tenPow_cast]
  field_simp

/-- Division gives the decimal nearest to the exact quotient, and fails exactly if none is. -/
theorem div?_spec (x : Decimal) {y : Decimal} (divisor : y.isZero = false)
    : (x.div? y = none ∧ ¬InReach (x.toRat / y.toRat))
      ∨ ∃ z,
          x.div? y = some z
          ∧ InReach (x.toRat / y.toRat)
          ∧ z.toRat = closest (x.toRat / y.toRat) := by
  rw [div?, if_neg (by simp [divisor])]
  split
  · next none =>
    have exact : (0 : ℚ) * tenPow 0 = (0 : ℕ) := by rw [zero_mul, Nat.cast_zero]
    obtain ⟨reached, same⟩ := closest_of_exact (by decide) (Nat.zero_le _) exact
    rw [toRat_of_isZero none, zero_div]
    exact .inr ⟨zero, rfl, reached, toRat_zero.trans same.symm⟩
  · have some : 0 < y.magnitude := by
      rw [Nat.pos_iff_ne_zero]
      simpa [isZero] using divisor
    have settles := Quotient.settles_settle (Nat.mod_lt x.magnitude some)
      ((Nat.div_le_self _ _).trans_lt x.magnitude_lt)
      (by have := x.scale_le; omega) false (counts_units x divisor)
    have sign := toRat_div x y
    generalize Quotient.settle y.magnitude (x.magnitude / y.magnitude) (x.magnitude % y.magnitude)
      (x.scale - y.scale) false = outcome at settles ⊢
    cases outcome with
    | none =>
        refine .inl ⟨rfl, ?_⟩
        rw [← inReach_abs, abs_div]
        exact settles
    | some q =>
        obtain ⟨reached, fits, value⟩ := settles
        rw [← abs_div, inReach_abs] at reached
        refine .inr ⟨_, by simp [ofMagnitude?, fits.units_lt, fits.scale_le]; rfl, reached, ?_⟩
        rw [toRat_unsignZero, sign]
        cases opposite : x.negative != y.negative with
        | false => exact (toRat_of_not_negative rfl).trans value
        | true =>
            rw [if_pos rfl, closest_neg, ← value]
            exact toRat_of_negative rfl

end ChargeBasis.Decimal

import ChargeBasis.Proofs.Money.Exactness

/-!
The places of a sum. An amount other than zero keeps its places in a sum and a zero has none to
keep, so a sum has the most places of its amounts, in whatever order they are added; unless the
amounts added so far come to zero, because a zero is dropped together with its places.
-/

namespace ChargeBasis

-----------------------------------------------------------------------------------------
-- Decimals
-----------------------------------------------------------------------------------------

namespace Decimal

theorem isZero_iff {x : Decimal}
    : x.isZero = true ↔ x.toRat = 0 := by
  refine ⟨toRat_of_isZero, fun value => ?_⟩
  have units := toRat_mul_tenPow x
  rw [value, zero_mul] at units
  have none : x.units = 0 := by exact_mod_cast units.symm
  have magnitude := x.natAbs_units
  rw [none] at magnitude
  simpa [isZero] using magnitude.symm

/-- A number other than zero is known by its value and its scale. -/
theorem eq_of_toRat {x y : Decimal} (value : x.toRat = y.toRat) (scale : x.scale = y.scale)
    (nonzero : x.toRat ≠ 0)
    : x = y := by
  have same : x.units = y.units := by
    have own := toRat_mul_tenPow x
    rw [value, scale, toRat_mul_tenPow] at own
    exact_mod_cast own.symm
  have magnitude : x.magnitude = y.magnitude := by
    rw [← natAbs_units, ← natAbs_units, same]
  have some : x.magnitude ≠ 0 := by
    intro none
    exact nonzero (toRat_of_isZero (by simpa [isZero] using none))
  have sign : x.negative = y.negative := by
    unfold units at same
    cases hx : x.negative <;> cases hy : y.negative <;> simp only [hx, hy] at same ⊢ <;>
      simp only [if_true, Bool.false_eq_true, if_false] at same <;> omega
  cases x
  cases y
  simp_all

/-- Below the limit a sum of numbers other than zero has the larger one of their scales. -/
theorem scale_add? {x y z : Decimal} {places : Nat} (hx : x.isZero = false)
    (hy : y.isZero = false) (xPlaces : x.scale ≤ places) (yPlaces : y.scale ≤ places)
    (kept : places ≤ maxScale) (bound : |x.toRat + y.toRat| * tenPow places < limit)
    (added : x.add? y = some z)
    : z.scale = max x.scale y.scale := by
  have shorter : max x.scale y.scale ≤ places := Nat.max_le.mpr ⟨xPlaces, yPlaces⟩
  have exact
      : ((x.unitsAt (max x.scale y.scale) + y.unitsAt (max x.scale y.scale) : ℤ) : ℚ)
        = (x.toRat + y.toRat) * tenPow (max x.scale y.scale) := by
    push_cast
    rw [unitsAt_cast (Nat.le_max_left ..), unitsAt_cast (Nat.le_max_right ..)]
    ring
  have small := natAbs_lt_limit exact shorter bound
  rw [add?, if_neg (by simp [hx]), if_neg (by simp [hy]),
    fit?_of_bounds small (Nat.le_trans shorter kept)] at added
  cases added
  rfl

end Decimal

namespace Money

variable {a b m : Money} {amounts others front : List Money}

theorem isZero_iff
    : m.isZero = true ↔ m.toRat = 0 :=
  Decimal.isZero_iff

theorem add_of_isZero_left (zero : a.isZero = true) (places : b.Settled)
    : a.add b = .ok b := by
  have none : a.amount.isZero = true := zero
  rw [add, Decimal.add?, if_pos none, settle, ofDecimal_of_scale_le places]

theorem add_of_isZero_right (nonzero : a.isZero = false) (zero : b.isZero = true)
    (places : a.Settled)
    : a.add b = .ok a := by
  have some : a.amount.isZero = false := nonzero
  have none : b.amount.isZero = true := zero
  rw [add, Decimal.add?, if_neg (by simp [some]), if_pos none, settle,
    ofDecimal_of_scale_le places]

/-- In range a sum of amounts other than zero has the more places of the two. -/
theorem scale_add (ha : a.isZero = false) (hb : b.isZero = false) (aPlaces : a.Settled)
    (bPlaces : b.Settled) (range : InRange (a.toRat + b.toRat)) {c : Money}
    (added : a.add b = .ok c)
    : c.amount.scale = a.amount.scale ⊔ b.amount.scale := by
  obtain ⟨z, sum, short, _⟩ :=
    Decimal.add?_exact aPlaces bPlaces workingPlaces_le_maxScale range.below_limit
  rw [add, sum, settle, ofDecimal_of_scale_le short] at added
  cases added
  exact Decimal.scale_add? ha hb aPlaces bPlaces workingPlaces_le_maxScale range.below_limit sum

-----------------------------------------------------------------------------------------
-- Places
-----------------------------------------------------------------------------------------

/-- The places that an amount keeps in a sum, none if it is zero. -/
def placesKept (m : Money) : Nat :=
  if m.isZero then 0 else m.amount.scale

/-- The most places that one of the amounts keeps. -/
def mostPlaces (amounts : List Money) : Nat :=
  (amounts.map placesKept).foldr (· ⊔ ·) 0

theorem mostPlaces_snoc (front : List Money) (m : Money)
    : mostPlaces (front ++ [m]) = mostPlaces front ⊔ m.placesKept := by
  induction front with
  | nil => simp [mostPlaces]
  | cons first rest ih =>
      have own : mostPlaces (first :: rest) = first.placesKept ⊔ mostPlaces rest := rfl
      rw [own, max_assoc, ← ih]
      rfl

/-- The order of the amounts does not matter. -/
theorem mostPlaces_perm (same : amounts.Perm others)
    : mostPlaces amounts = mostPlaces others :=
  (same.map placesKept).foldr_eq 0

theorem mostPlaces_of_zeros (zeros : ∀ m ∈ amounts, m.isZero = true)
    : mostPlaces amounts = 0 := by
  induction amounts with
  | nil => rfl
  | cons first rest ih =>
      obtain ⟨zero, zerosRest⟩ := List.forall_mem_cons.mp zeros
      have own : mostPlaces (first :: rest) = first.placesKept ⊔ mostPlaces rest := rfl
      rw [own, ih zerosRest, placesKept, if_pos zero]
      rfl

-----------------------------------------------------------------------------------------
-- Sums
-----------------------------------------------------------------------------------------

/-- Amounts that are added up without rounding. -/
structure SumExactly (amounts : List Money) : Prop where
  places : ∀ m ∈ amounts, m.Settled
  range : PartialSumsInRange (amounts.map toRat)

theorem SumExactly.toRat_sum (exactly : SumExactly amounts) {total : Money}
    (summed : sum amounts = .ok total)
    : total.toRat = (amounts.map toRat).sum := by
  obtain ⟨_, formed, _, value⟩ := sum_exact exactly.places exactly.range
  cases summed.symm.trans formed
  exact value

/-- Amounts that are added up without rounding and without coming back to zero on the way, and that
are all written alike if they are zeros.
-/
structure SumSteadily (amounts : List Money) : Prop extends SumExactly amounts where
  steady
    : ∀ front, front <+: amounts → (front.map toRat).sum = 0 → ∀ m ∈ front, m.isZero = true
  zeros
    : (∀ m ∈ amounts, m.isZero = true) → ∀ a ∈ amounts, ∀ b ∈ amounts, a = b

/-- What holds on the way to a sum holds on a part of the way. -/
theorem exists_sum_snoc (places : ∀ other ∈ front ++ [m], other.Settled)
    (range : PartialSumsInRange ((front ++ [m]).map toRat)) {subtotal : Money}
    (summed : sum front = .ok subtotal)
    : ∃ total,
        subtotal.add m = .ok total
        ∧ sum (front ++ [m]) = .ok total
        ∧ subtotal.Settled
        ∧ subtotal.toRat = (front.map toRat).sum
        ∧ InRange (subtotal.toRat + m.toRat) := by
  have before : PartialSumsInRange (front.map toRat) :=
    range.of_leading ((List.prefix_append front [m]).map toRat)
  obtain ⟨exact, formed, settled, value⟩ :=
    sum_exact (fun other member => places other (List.mem_append_left _ member)) before
  cases summed.symm.trans formed
  have next := range _ (List.prefix_refl _)
  rw [List.map_append, List.sum_append, List.map_singleton, List.sum_singleton, ← value] at next
  obtain ⟨total, added, _, _⟩ := add_exact settled (places m (by simp)) next
  exact ⟨total, added, sum_append_singleton summed added, settled, value, next⟩

/-- Amounts other than zero among others come to a sum with the most places of all, as long as the
sum does not come back to zero. The induction is over the amounts, the last one of which is added to
nothing, is nothing, or is neither.
-/
theorem scale_sum (places : ∀ m ∈ amounts, m.Settled)
    (range : PartialSumsInRange (amounts.map toRat))
    (steady
      : ∀ front, front <+: amounts → (front.map toRat).sum = 0 → ∀ m ∈ front, m.isZero = true)
    (some : ∃ m ∈ amounts, m.isZero = false) {total : Money} (summed : sum amounts = .ok total)
    : total.amount.scale = mostPlaces amounts := by
  induction amounts using List.reverseRecOn generalizing total with
  | nil =>
      obtain ⟨m, member, _⟩ := some
      cases member
  | append_singleton front m ih =>
      have before (other : Money) (member : other ∈ front) : other.Settled :=
        places other (List.mem_append_left _ member)
      have leading : front <+: front ++ [m] := List.prefix_append front [m]
      have rangeBefore : PartialSumsInRange (front.map toRat) :=
        range.of_leading (leading.map toRat)
      obtain ⟨subtotal, formed, _, _⟩ := sum_exact before rangeBefore
      obtain ⟨next, added, whole, settled, value, inRange⟩ := exists_sum_snoc places range formed
      cases summed.symm.trans whole
      have own : m.Settled := places m (by simp)
      rw [mostPlaces_snoc]
      by_cases nothing : ∀ other ∈ front, other.isZero = true
      · have zero : subtotal.isZero = true := by
          rw [isZero_iff, value]
          apply List.sum_eq_zero
          intro part member
          obtain ⟨other, listed, rfl⟩ := List.mem_map.mp member
          exact isZero_iff.mp (nothing other listed)
        have nonzero : m.isZero = false := by
          obtain ⟨other, member, nonzero⟩ := some
          rcases List.mem_append.mp member with early | last
          · rw [nothing other early] at nonzero
            cases nonzero
          · exact List.mem_singleton.mp last ▸ nonzero
        rw [add_of_isZero_left zero own] at added
        cases added
        rw [mostPlaces_of_zeros nothing, Nat.zero_max, placesKept, if_neg (by simp [nonzero])]
      · have someBefore : ∃ other ∈ front, other.isZero = false := by
          simpa using nothing
        have subtotalSome : subtotal.isZero = false := by
          rw [← Bool.not_eq_true, isZero_iff, value]
          exact fun zero => nothing (steady front leading zero)
        have subtotalScale := ih before rangeBefore
          (fun part within => steady part (within.trans leading)) someBefore formed
        cases zero : m.isZero with
        | true =>
            rw [add_of_isZero_right subtotalSome zero settled] at added
            cases added
            rw [placesKept, if_pos zero, Nat.max_zero, subtotalScale]
        | false =>
            rw [scale_add subtotalSome zero settled own inRange added, subtotalScale, placesKept,
              if_neg (by simp [zero])]

/-- Zeros that are written alike make the same list in every order. -/
theorem SumSteadily.eq_of_zeros (steadily : SumSteadily amounts)
    (nothing : ∀ m ∈ amounts, m.isZero = true) (same : amounts.Perm others)
    : amounts = others := by
  cases amounts with
  | nil => exact same.nil_eq
  | cons first rest =>
      have alike : first :: rest = List.replicate (first :: rest).length first :=
        List.eq_replicate_of_mem fun m member =>
          steadily.zeros nothing m member first List.mem_cons_self
      rw [alike] at same ⊢
      exact List.replicate_perm.mp same

/-- Amounts that are added up steadily in two orders come to the same sum, places included. -/
theorem SumSteadily.sum_eq (steadily : SumSteadily amounts) (reordered : SumSteadily others)
    (same : amounts.Perm others)
    : sum amounts = sum others := by
  by_cases nothing : ∀ m ∈ amounts, m.isZero = true
  · rw [steadily.eq_of_zeros nothing same]
  · have some : ∃ m ∈ amounts, m.isZero = false := by simpa using nothing
    have someOther : ∃ m ∈ others, m.isZero = false := by
      obtain ⟨m, member, nonzero⟩ := some
      exact ⟨m, same.mem_iff.mp member, nonzero⟩
    obtain ⟨total, summed, _, value⟩ := sum_exact steadily.places steadily.range
    obtain ⟨other, otherSummed, _, otherValue⟩ := sum_exact reordered.places reordered.range
    have values : total.toRat = other.toRat := by
      rw [value, otherValue, (same.map toRat).sum_eq]
    have scales : total.amount.scale = other.amount.scale := by
      rw [scale_sum steadily.places steadily.range steadily.steady some summed,
        scale_sum reordered.places reordered.range reordered.steady someOther otherSummed,
        mostPlaces_perm same]
    have nonzero : total.toRat ≠ 0 := by
      rw [value]
      exact fun zero => nothing (steadily.steady amounts (List.prefix_refl _) zero)
    have equal : total = other := congrArg Money.mk (Decimal.eq_of_toRat values scales nonzero)
    rw [summed, otherSummed, equal]

/-- Amounts of which none is negative are added up steadily in every order. -/
theorem SumSteadily.of_nonneg (places : ∀ m ∈ amounts, m.Settled)
    (nonneg : ∀ m ∈ amounts, 0 ≤ m.toRat) (bound : (amounts.map toRat).sum ≤ exactLimit)
    (zeros : (∀ m ∈ amounts, m.isZero = true) → ∀ a ∈ amounts, ∀ b ∈ amounts, a = b)
    : SumSteadily amounts where
  places := places
  zeros := zeros
  range := by
    have values : amounts.map (fun m => |m.toRat|) = amounts.map toRat :=
      List.map_congr_left fun m member => abs_of_nonneg (nonneg m member)
    apply partialSumsInRange_of_magnitude
    rwa [magnitude, values]
  steady := by
    intro front leading zero m member
    have parts : ∀ q ∈ front.map toRat, 0 ≤ q := by
      intro q listed
      obtain ⟨other, within, rfl⟩ := List.mem_map.mp listed
      exact nonneg other (leading.subset within)
    have least := List.single_le_sum parts _ (List.mem_map_of_mem member)
    rw [zero] at least
    exact isZero_iff.mpr (le_antisymm least (nonneg m (leading.subset member)))

end Money

end ChargeBasis

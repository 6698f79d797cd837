import ChargeBasis.Proofs.Money.Scales

/-!
Totals in any order. Amounts whose magnitudes together are in range come to the sum of their values
in whatever order they are added, because no part of them can leave the range on the way. For the
same reason an amount that was added can be taken away again.
-/

namespace ChargeBasis.Money

variable {amounts order rest : List Money} {first a b : Money}

/-- Adds amounts to an accumulator one after another. -/
def addEach (start : Money) (amounts : List Money) : Except Overflow Money := do
  let mut total := start
  for amount in amounts do
    total ← total.add amount
  return total

theorem addEach_eq_foldlM (start : Money) (amounts : List Money)
    : start.addEach amounts = amounts.foldlM add start := by
  simp [addEach]

/-- An accumulator that starts with nothing ends with the sum. -/
theorem addEach_zero (amounts : List Money)
    : zero.addEach amounts = sum amounts :=
  addEach_eq_foldlM zero amounts

/-- An accumulator can as well start with the first amount, since a zero is dropped in a sum. -/
theorem addEach_first (places : first.Settled) (rest : List Money)
    : first.addEach rest = sum (first :: rest) := by
  have nothing : zero.isZero = true := rfl
  rw [addEach_eq_foldlM, sum, List.foldlM_cons, add_of_isZero_left nothing places]
  rfl

/-- Amounts with at most the places kept whose magnitudes together are in range. -/
structure TogetherInRange (amounts : List Money) : Prop where
  places : ∀ m ∈ amounts, m.Settled
  bound : magnitude amounts ≤ exactLimit

theorem TogetherInRange.perm (together : TogetherInRange amounts) (same : order.Perm amounts)
    : TogetherInRange order where
  places m member := together.places m (same.mem_iff.mp member)
  bound := (magnitude_perm same).trans_le together.bound

/-- In any order the amounts come to the sum of their values. -/
theorem TogetherInRange.sum_perm (together : TogetherInRange amounts)
    (same : order.Perm amounts)
    : ∃ total, sum order = .ok total ∧ total.toRat = (amounts.map toRat).sum := by
  obtain ⟨places, bound⟩ := together.perm same
  obtain ⟨total, summed, _, value⟩ := sum_exact places (partialSumsInRange_of_magnitude bound)
  exact ⟨total, summed, value.trans (same.map toRat).sum_eq⟩

/-- What was added can be taken away again. -/
theorem TogetherInRange.add_sub (together : TogetherInRange [a, b])
    : ∃ total back,
        a.add b = .ok total ∧ total.sub b = .ok back ∧ back.toRat = a.toRat := by
  obtain ⟨places, bound⟩ := together
  have ha : a.Settled := places a (by simp)
  have hb : b.Settled := places b (by simp)
  have both : |a.toRat| + |b.toRat| ≤ exactLimit := by simpa [magnitude] using bound
  have whole : InRange (a.toRat + b.toRat) := (abs_add_le _ _).trans both
  have part : InRange a.toRat := (le_add_of_nonneg_right (abs_nonneg _)).trans both
  obtain ⟨total, added, settled, value⟩ := add_exact ha hb whole
  have difference : total.toRat - b.toRat = a.toRat := by rw [value, add_sub_cancel_right]
  rw [← difference] at part
  obtain ⟨back, subtracted, _, backValue⟩ := sub_exact settled hb part
  exact ⟨total, back, added, subtracted, backValue.trans difference⟩

/-- Amounts whose magnitudes together are in range come to the sum of their values in every order,
summed or added to an accumulator, which can start with nothing or with the first of them. Of two
such amounts one can be added to the other and taken away again, and an amount is held exactly for
every number of days that keeps the result in range.
-/
theorem totals_exact_in_any_order
    : (∀ amounts order : List Money,
        TogetherInRange amounts
        → order.Perm amounts
        → ∃ total,
            sum order = .ok total
            ∧ zero.addEach order = .ok total
            ∧ (∀ first rest, order = first :: rest → first.addEach rest = .ok total)
            ∧ total.toRat = (amounts.map toRat).sum)
      ∧ (∀ a b : Money,
          TogetherInRange [a, b]
          → ∃ total back,
              a.add b = .ok total ∧ total.sub b = .ok back ∧ back.toRat = a.toRat)
      ∧ ∀ (a : Money) (days : ℤ),
          a.Settled
          → InRange (a.toRat * days)
          → ∃ weighed,
              a.weightedByDays days = .ok weighed ∧ weighed.toRat = a.toRat * days := by
  refine ⟨?_, fun a b together => together.add_sub, ?_⟩
  · intro amounts order together same
    obtain ⟨total, summed, value⟩ := together.sum_perm same
    refine ⟨total, summed, (addEach_zero order).trans summed, ?_, value⟩
    intro first rest split
    subst split
    exact (addEach_first ((together.perm same).places first (by simp)) rest).trans summed
  · intro a days settled range
    obtain ⟨weighed, held, _, value⟩ := weightedByDays_exact settled range
    exact ⟨weighed, held, value⟩

-----------------------------------------------------------------------------------------
-- Samples
-----------------------------------------------------------------------------------------

namespace Sample

/-- The largest amount with all the places kept, but for three. -/
def nearlyAll : Money :=
  ⟨⟨false, 79228162514264337593243950335, 8, by decide, by decide⟩⟩

def half : Money :=
  ⟨⟨false, 500, 3, by decide, by decide⟩⟩

def lossOfOneAndAHalf : Money :=
  ⟨⟨true, 15000, 4, by decide, by decide⟩⟩

end Sample

/-- Four amounts of different places and signs, which fill the range to its last unit, are added in
another order than they are listed.
-/
theorem totals_exact_in_any_order_sample
    : let amounts := [Sample.nearlyAll, .ofMajor (-1), Sample.half, Sample.lossOfOneAndAHalf]
      let order := [Sample.half, Sample.lossOfOneAndAHalf, Sample.nearlyAll, .ofMajor (-1)]
      TogetherInRange amounts
      ∧ magnitude amounts = exactLimit
      ∧ order.Perm amounts
      ∧ TogetherInRange [Sample.nearlyAll, .ofMajor (-1)]
      ∧ Sample.half.Settled
      ∧ InRange (Sample.half.toRat * (-31 : ℤ))
      ∧ (∃ total,
          sum order = .ok total
          ∧ zero.addEach order = .ok total
          ∧ Sample.half.addEach order.tail = .ok total
          ∧ total.toRat = 79228162514264337593043950335 / 10 ^ 8)
      ∧ (∃ total back,
          Sample.nearlyAll.add (.ofMajor (-1)) = .ok total
          ∧ total.sub (.ofMajor (-1)) = .ok back
          ∧ back.toRat = Sample.nearlyAll.toRat)
      ∧ ∃ weighed, Sample.half.weightedByDays (-31) = .ok weighed ∧ weighed.toRat = -31 / 2 := by
  intro amounts order
  obtain ⟨anyOrder, takenBack, held⟩ := totals_exact_in_any_order
  have together : TogetherInRange amounts :=
    ⟨by decide +kernel, by unfold magnitude; decide +kernel⟩
  have full : magnitude amounts = exactLimit := by
    unfold magnitude
    decide +kernel
  have same : order.Perm amounts := by decide +kernel
  have pair : TogetherInRange [Sample.nearlyAll, .ofMajor (-1)] :=
    ⟨by decide +kernel, by unfold magnitude; decide +kernel⟩
  have settled : Sample.half.Settled := by decide
  have range : InRange (Sample.half.toRat * (-31 : ℤ)) := by
    unfold InRange
    decide +kernel
  obtain ⟨total, summed, added, addedToFirst, value⟩ := anyOrder amounts order together same
  obtain ⟨weighed, weight, product⟩ := held Sample.half (-31) settled range
  refine ⟨together, full, same, pair, settled, range, ?_, takenBack _ _ pair, weighed, weight, ?_⟩
  · exact ⟨total, summed, added, addedToFirst _ _ rfl, value.trans (by decide +kernel)⟩
  · exact product.trans (by decide +kernel)

end ChargeBasis.Money

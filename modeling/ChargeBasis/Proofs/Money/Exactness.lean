import ChargeBasis.Money.Basic
import ChargeBasis.Proofs.Decimal.Exactness

/-!
Exact money. Amounts with at most the places kept are added and weighted without any rounding as
long as the results stay in the exact range, so that sums of such amounts are the sums of their
values.
-/

namespace ChargeBasis.Money

/-- The largest value of a decimal with all the places kept, `(2 ^ 96 - 1) / 10 ^ 8`. -/
def exactLimit : ℚ := (Decimal.limit - 1) / tenPow workingPlaces

/-- The value lies between the largest one and its opposite. -/
def InRange (q : ℚ) : Prop := |q| ≤ exactLimit

/-- All sums that arise while values are added from the front are in range. -/
def PartialSumsInRange (values : List ℚ) : Prop :=
  ∀ front, front <+: values → InRange front.sum

/-- The amount has at most the places kept. -/
def Settled (m : Money) : Prop := m.amount.scale ≤ workingPlaces

instance (m : Money) : Decidable m.Settled :=
  inferInstanceAs (Decidable (m.amount.scale ≤ workingPlaces))

/-- A value in range stays below the limit when it is counted in the last place kept. -/
theorem InRange.below_limit {q : ℚ} (h : InRange q)
    : |q| * tenPow workingPlaces < Decimal.limit := by
  have positive := Decimal.tenPow_cast_pos workingPlaces
  have scaled : |q| * tenPow workingPlaces ≤ Decimal.limit - 1 := by
    rw [← div_mul_cancel₀ ((Decimal.limit : ℚ) - 1) positive.ne']
    exact mul_le_mul_of_nonneg_right h positive.le
  linarith

/-- The sums on a part of the way are sums on the way. -/
theorem PartialSumsInRange.of_leading {front values : List ℚ} (range : PartialSumsInRange values)
    (leading : front <+: values)
    : PartialSumsInRange front :=
  fun part within => range part (within.trans leading)

theorem inRange_zero
    : InRange 0 := by
  norm_num [InRange, exactLimit, Decimal.limit, tenPow, workingPlaces]

@[simp] theorem toRat_zero
    : Money.zero.toRat = 0 :=
  Decimal.toRat_zero

@[simp] theorem settled_zero
    : Money.zero.Settled :=
  Nat.zero_le _

theorem ofDecimal_of_scale_le {x : Decimal} (h : x.scale ≤ workingPlaces)
    : ofDecimal x = ⟨x⟩ := by
  rw [ofDecimal, Decimal.round_of_scale_le h]

/-- Every result that did not overflow has at most the places kept. -/
theorem settled_of_settle {kind : Overflow} {x : Option Decimal} {m : Money}
    (h : settle kind x = .ok m)
    : m.Settled := by
  cases x with
  | none => cases h
  | some x =>
      cases h
      exact scale_ofDecimal_le x

theorem settle_exact {kind : Overflow} {x : Option Decimal} {q : ℚ}
    (h : ∃ z, x = some z ∧ z.scale ≤ workingPlaces ∧ z.toRat = q)
    : ∃ m, settle kind x = .ok m ∧ m.Settled ∧ m.toRat = q := by
  obtain ⟨z, rfl, short, value⟩ := h
  exact ⟨⟨z⟩, by rw [settle, ofDecimal_of_scale_le short], short, value⟩

theorem add_exact {a b : Money} (ha : a.Settled) (hb : b.Settled)
    (range : InRange (a.toRat + b.toRat))
    : ∃ c, a.add b = .ok c ∧ c.Settled ∧ c.toRat = a.toRat + b.toRat :=
  settle_exact (Decimal.add?_exact ha hb workingPlaces_le_maxScale range.below_limit)

theorem sub_exact {a b : Money} (ha : a.Settled) (hb : b.Settled)
    (range : InRange (a.toRat - b.toRat))
    : ∃ c, a.sub b = .ok c ∧ c.Settled ∧ c.toRat = a.toRat - b.toRat :=
  settle_exact (Decimal.sub?_exact ha hb workingPlaces_le_maxScale range.below_limit)

theorem weightedByDays_exact {a : Money} {days : ℤ} (ha : a.Settled)
    (range : InRange (a.toRat * days))
    : ∃ c, a.weightedByDays days = .ok c ∧ c.Settled ∧ c.toRat = a.toRat * days :=
  settle_exact (Decimal.times?_exact ha workingPlaces_le_maxScale range.below_limit)

/-- Adding a list to an amount is exact if all sums on the way are in range, by induction over the
list. -/
theorem foldlM_add_exact {start : Money} {amounts : List Money} (settled : start.Settled)
    (places : ∀ m ∈ amounts, m.Settled)
    (range
      : ∀ front, front <+: amounts.map toRat → InRange (start.toRat + front.sum))
    : ∃ total,
        amounts.foldlM add start = .ok total
        ∧ total.Settled
        ∧ total.toRat = start.toRat + (amounts.map toRat).sum := by
  induction amounts generalizing start with
  | nil => exact ⟨start, rfl, settled, by simp⟩
  | cons m rest ih =>
      have first := range [m.toRat] (by simp)
      rw [List.sum_singleton] at first
      obtain ⟨next, added, nextSettled, value⟩ :=
        add_exact settled (places m (by simp)) first
      obtain ⟨total, folded, totalSettled, sum⟩ :=
        ih nextSettled (fun m' member => places m' (by simp [member])) (by
          intro front leading
          have longer := range (m.toRat :: front) (by simpa using leading)
          rwa [List.sum_cons, ← add_assoc, ← value] at longer)
      refine ⟨total, ?_, totalSettled, ?_⟩
      · rw [List.foldlM_cons, added]
        exact folded
      · rw [sum, value, List.map_cons, List.sum_cons, add_assoc]

/-- A sum is exact if all sums on the way are in range. -/
theorem sum_exact {amounts : List Money} (places : ∀ m ∈ amounts, m.Settled)
    (range : PartialSumsInRange (amounts.map toRat))
    : ∃ total,
        sum amounts = .ok total
        ∧ total.Settled
        ∧ total.toRat = (amounts.map toRat).sum := by
  obtain ⟨total, folded, settled, value⟩ :=
    foldlM_add_exact settled_zero places (by simpa [PartialSumsInRange] using range)
  exact ⟨total, folded, settled, by simpa using value⟩

/-- The last amount is added to the sum of those before it. -/
theorem sum_snoc (front : List Money) (last : Money)
    : sum (front ++ [last]) = sum front >>= fun total => total.add last := by
  simp [sum, List.foldlM_append]

/-- One more amount is added to a sum at its end. -/
theorem sum_append_singleton {amounts : List Money} {amount subtotal total : Money}
    (before : sum amounts = .ok subtotal) (added : subtotal.add amount = .ok total)
    : sum (amounts ++ [amount]) = .ok total := by
  have summed : amounts.foldlM add zero = .ok subtotal := before
  rw [sum, List.foldlM_append, summed]
  change subtotal.add amount >>= pure = .ok total
  rw [added]
  rfl

theorem abs_sum_le (values : List ℚ)
    : |values.sum| ≤ (values.map abs).sum := by
  simpa using Multiset.abs_sum_le_sum_abs (s := (values : Multiset ℚ))

/-- All sums on the way are in range if the magnitudes together are. -/
theorem partialSumsInRange_of_abs {values : List ℚ}
    (bound : (values.map abs).sum ≤ exactLimit)
    : PartialSumsInRange values := by
  intro front leading
  have part : (front.map abs).sum ≤ (values.map abs).sum := by
    apply (leading.sublist.map abs).sum_le_sum
    intro magnitude member
    obtain ⟨q, _, rfl⟩ := List.mem_map.mp member
    exact abs_nonneg q
  exact (abs_sum_le front).trans (part.trans bound)

theorem settled_of_add {a b c : Money} (h : a.add b = .ok c)
    : c.Settled :=
  settled_of_settle h

/-- Adding to an amount with at most the places kept never leads to more, by induction over the
amounts added. -/
theorem settled_of_foldlM_add {start total : Money} {amounts : List Money}
    (settled : start.Settled) (h : amounts.foldlM add start = .ok total)
    : total.Settled := by
  induction amounts generalizing start with
  | nil =>
      cases h
      exact settled
  | cons m rest ih =>
      rw [List.foldlM_cons] at h
      cases added : start.add m with
      | error kind =>
          rw [added] at h
          cases h
      | ok next =>
          rw [added] at h
          exact ih (settled_of_add added) h

theorem settled_of_sum {total : Money} {amounts : List Money} (h : sum amounts = .ok total)
    : total.Settled :=
  settled_of_foldlM_add settled_zero h

end ChargeBasis.Money

-----------------------------------------------------------------------------------------
-- Magnitudes
-----------------------------------------------------------------------------------------

namespace ChargeBasis

/-- The magnitudes of amounts together. -/
def magnitude (amounts : List Money) : ℚ :=
  (amounts.map fun m => |m.toRat|).sum

section Magnitude

variable {amounts others part : List Money}

theorem magnitude_sublist (within : part.Sublist amounts)
    : magnitude part ≤ magnitude amounts := by
  apply (within.map _).sum_le_sum
  intro size member
  obtain ⟨m, _, rfl⟩ := List.mem_map.mp member
  exact abs_nonneg _

theorem magnitude_nonneg (amounts : List Money)
    : 0 ≤ magnitude amounts :=
  magnitude_sublist (List.nil_sublist amounts)

theorem magnitude_cons (amount : Money) (rest : List Money)
    : magnitude (amount :: rest) = |amount.toRat| + magnitude rest := by
  simp [magnitude]

theorem magnitude_perm (same : amounts.Perm others)
    : magnitude amounts = magnitude others := by
  unfold magnitude
  exact (same.map _).sum_eq

theorem abs_sum_toRat_le (amounts : List Money)
    : |(amounts.map Money.toRat).sum| ≤ magnitude amounts := by
  have bound := Money.abs_sum_le (amounts.map Money.toRat)
  rwa [List.map_map] at bound

/-- All sums on the way are in range if the magnitudes together are. -/
theorem partialSumsInRange_of_magnitude (bound : magnitude amounts ≤ Money.exactLimit)
    : Money.PartialSumsInRange (amounts.map Money.toRat) := by
  apply Money.partialSumsInRange_of_abs
  rwa [List.map_map]

end Magnitude

end ChargeBasis

import ChargeBasis.Proofs.Money.Scales
import ChargeBasis.Proofs.Summary.Cache

/-!
Sums by month as sums of columns. Several series of the same length are added up month by month, so
that each month of the result is the sum of what the series have for the month, in the order in
which they are visited; to the last digit, and it overflows exactly if one of these sums does.
-/

namespace ChargeBasis

namespace SummaryCache

/-- What several series have for a month, in the order in which they come. -/
def column (values : BalanceSeries → List Money) (summaries : List BalanceSeries) (month : Nat)
    : List Money :=
  summaries.filterMap fun series => (values series)[month]?

section Columns

variable {values : BalanceSeries → List Money} {summaries others front : List BalanceSeries}
  {series : BalanceSeries} {totals amounts sums : List Money} {months month : Nat}

theorem column_perm (same : summaries.Perm others) (month : Nat)
    : (column values summaries month).Perm (column values others month) :=
  same.filterMap _

theorem column_snoc {amount : Money} (entry : (values series)[month]? = some amount)
    : column values (front ++ [series]) month = column values front month ++ [amount] := by
  simp [column, List.filterMap_append, entry]

/-- A column adds up to what the series have for the month, by induction over the series. -/
theorem sum_column (values : BalanceSeries → List Money) (summaries : List BalanceSeries)
    (month : Nat)
    : ((column values summaries month).map Money.toRat).sum
      = (summaries.map fun series => valueIn (values series) month).sum := by
  induction summaries with
  | nil => rfl
  | cons series rest ih =>
      rw [List.map_cons, List.sum_cons, ← ih]
      cases entry : (values series)[month]? with
      | none => simp [column, valueIn, entry]
      | some amount => simp [column, valueIn, entry]

/-- Amounts none of which is negative are added up steadily if all zeros among them are written
without places.
-/
theorem steadily_column
    (each
      : ∀ series ∈ summaries,
          ∀ m ∈ values series, m.Settled ∧ 0 ≤ m.toRat ∧ (m.isZero = true → m = .zero))
    (bound : (summaries.map fun series => magnitude (values series)).sum ≤ Money.exactLimit)
    (month : Nat)
    : Money.SumSteadily (column values summaries month) := by
  have entry (m : Money) (member : m ∈ column values summaries month)
      : m.Settled ∧ 0 ≤ m.toRat ∧ (m.isZero = true → m = .zero) := by
    obtain ⟨series, kept, place⟩ := List.mem_filterMap.mp member
    exact each series kept m (List.mem_of_getElem? place)
  refine .of_nonneg (fun m member => (entry m member).1) (fun m member => (entry m member).2.1)
    ?_ ?_
  · rw [sum_column]
    exact (List.sum_le_sum fun series _ =>
      (le_abs_self _).trans (abs_valueIn_le (values series) month)).trans bound
  · intro zeros a first b second
    rw [(entry a first).2.2 (zeros a first), (entry b second).2.2 (zeros b second)]

/-- Every month is an addition of its own, by induction over the totals. -/
theorem addMonthly_eq_ok_iff (lengths : amounts.length = totals.length)
    : addMonthly totals amounts = .ok sums
      ↔ sums.length = totals.length
        ∧ ∀ (month : Nat) (total amount : Money),
            totals[month]? = some total
            → amounts[month]? = some amount
            → ∃ sum, sums[month]? = some sum ∧ total.add amount = .ok sum := by
  induction totals generalizing amounts sums with
  | nil =>
      cases List.length_eq_zero_iff.mp lengths
      change Except.ok [] = Except.ok sums ↔ _
      constructor
      · intro same
        cases same
        exact ⟨rfl, by simp⟩
      · intro entries
        rw [List.length_eq_zero_iff.mp entries.1]
  | cons total totals ih =>
      obtain ⟨amount, rest, rfl⟩ := List.exists_cons_of_length_eq_add_one lengths
      simp only [addMonthly, Except.bind_eq_ok_iff]
      constructor
      · intro added
        obtain ⟨sum, first, tail, others, same⟩ := added
        cases same
        obtain ⟨length, entries⟩ := (ih (Nat.succ.inj lengths)).mp others
        refine ⟨congrArg Nat.succ length, ?_⟩
        intro month t a totalPlace amountPlace
        cases month with
        | zero =>
            cases totalPlace
            cases amountPlace
            exact ⟨sum, rfl, first⟩
        | succ month => exact entries month t a totalPlace amountPlace
      · intro each
        obtain ⟨length, entries⟩ := each
        obtain ⟨sum, tail, rfl⟩ := List.exists_cons_of_length_eq_add_one length
        obtain ⟨_, place, first⟩ := entries 0 total amount rfl rfl
        cases place
        refine ⟨sum, first, tail, ?_, rfl⟩
        exact (ih (Nat.succ.inj lengths)).mpr
          ⟨Nat.succ.inj length, fun month => entries (month + 1)⟩

/-- A series with an amount for each month is added to every total on its own. -/
theorem addSeries_eq_ok_iff (lengths : (values series).length = totals.length)
    : addSeries values totals series = .ok sums
      ↔ sums.length = totals.length
        ∧ ∀ (month : Nat) (total amount : Money),
            totals[month]? = some total
            → (values series)[month]? = some amount
            → ∃ sum, sums[month]? = some sum ∧ total.add amount = .ok sum := by
  rw [addSeries, if_pos lengths, ← addMonthly_eq_ok_iff lengths]
  exact Except.mapError_eq_ok_iff

theorem aggregate_snoc (months : Nat) (values : BalanceSeries → List Money)
    (front : List BalanceSeries) (series : BalanceSeries)
    : aggregate months values (front ++ [series])
      = aggregate months values front >>= fun totals => addSeries values totals series := by
  simp [aggregate, List.foldlM_append]

/-- Sums that can be formed for each month can be listed. -/
theorem exists_sums
    (formed : ∀ month < months, ∃ total, Money.sum (column values summaries month) = .ok total)
    : ∃ totals : List Money,
        totals.length = months
        ∧ ∀ month < months,
            ∃ total,
              totals[month]? = some total
              ∧ Money.sum (column values summaries month) = .ok total := by
  choose total summed using formed
  refine ⟨List.ofFn fun i : Fin months => total i i.isLt, List.length_ofFn, ?_⟩
  intro month within
  refine ⟨total month within, ?_, summed month within⟩
  rw [List.getElem?_ofFn, dif_pos within]

/-- Without series the sums by month are nothing, and so are those of the columns. -/
theorem aggregate_nil_eq_ok_iff
    : aggregate months values [] = .ok sums
      ↔ sums.length = months
        ∧ ∀ month < months,
            ∃ total,
              sums[month]? = some total ∧ Money.sum (column values [] month) = .ok total := by
  change Except.ok (List.replicate months Money.zero) = Except.ok sums ↔ _
  constructor
  · intro same
    cases same
    refine ⟨List.length_replicate, fun month within => ⟨.zero, ?_, rfl⟩⟩
    rw [List.getElem?_replicate, if_pos within]
  · intro nothing
    obtain ⟨length, entries⟩ := nothing
    refine congrArg Except.ok (List.eq_replicate_iff.mpr ⟨length, ?_⟩).symm
    intro amount member
    obtain ⟨month, place⟩ := List.mem_iff_getElem?.mp member
    obtain ⟨total, same, summed⟩ := entries month
      (length ▸ (List.getElem?_eq_some_iff.mp place).1)
    cases place.symm.trans same
    cases summed
    rfl

/-- A column that can be summed could be summed before its last amount. -/
theorem exists_sum_of_snoc {amount total : Money} (entry : (values series)[month]? = some amount)
    (summed : Money.sum (column values (front ++ [series]) month) = .ok total)
    : ∃ subtotal,
        Money.sum (column values front month) = .ok subtotal
        ∧ subtotal.add amount = .ok total := by
  rw [column_snoc entry, Money.sum_snoc, Except.bind_eq_ok_iff] at summed
  exact summed

/-- The sums by month are the sums of the columns, by induction over the series, the last of which
adds an amount to each column.
-/
theorem aggregate_eq_ok_iff
    (lengths : ∀ series ∈ summaries, (values series).length = months)
    : aggregate months values summaries = .ok sums
      ↔ sums.length = months
        ∧ ∀ month < months,
            ∃ total,
              sums[month]? = some total
              ∧ Money.sum (column values summaries month) = .ok total := by
  induction summaries using List.reverseRecOn generalizing sums with
  | nil => exact aggregate_nil_eq_ok_iff
  | append_singleton front series ih =>
      have before : ∀ s ∈ front, (values s).length = months := fun s member =>
        lengths s (List.mem_append_left _ member)
      have own : (values series).length = months := lengths series (by simp)
      have entry (month : Nat) (within : month < months)
          : ∃ amount, (values series)[month]? = some amount :=
        ⟨_, List.getElem?_eq_getElem (own.symm ▸ within)⟩
      rw [aggregate_snoc, Except.bind_eq_ok_iff]
      constructor
      · intro formed
        obtain ⟨totals, formed, added⟩ := formed
        obtain ⟨length, columns⟩ := (ih before).mp formed
        obtain ⟨sumsLength, entries⟩ := (addSeries_eq_ok_iff (own.trans length.symm)).mp added
        refine ⟨sumsLength.trans length, ?_⟩
        intro month within
        obtain ⟨total, place, summed⟩ := columns month within
        obtain ⟨amount, amountPlace⟩ := entry month within
        obtain ⟨sum, sumPlace, sumAdded⟩ := entries month total amount place amountPlace
        refine ⟨sum, sumPlace, ?_⟩
        rw [column_snoc amountPlace]
        exact Money.sum_append_singleton summed sumAdded
      · intro columns
        obtain ⟨length, columns⟩ := columns
        obtain ⟨totals, totalsLength, parts⟩ := @exists_sums values front months (by
          intro month within
          obtain ⟨amount, amountPlace⟩ := entry month within
          obtain ⟨sum, _, summed⟩ := columns month within
          obtain ⟨total, first, _⟩ := exists_sum_of_snoc amountPlace summed
          exact ⟨total, first⟩)
        refine ⟨totals, (ih before).mpr ⟨totalsLength, parts⟩, ?_⟩
        refine (addSeries_eq_ok_iff (own.trans totalsLength.symm)).mpr
          ⟨length.trans totalsLength.symm, ?_⟩
        intro month subtotal amount place amountPlace
        have within : month < months := own ▸ (List.getElem?_eq_some_iff.mp amountPlace).1
        obtain ⟨total, same, first⟩ := parts month within
        cases place.symm.trans same
        obtain ⟨sum, sumPlace, summed⟩ := columns month within
        obtain ⟨other, otherFirst, added⟩ := exists_sum_of_snoc amountPlace summed
        cases first.symm.trans otherFirst
        exact ⟨sum, sumPlace, added⟩

/-- Series whose columns have the same sums have the same sums by month. -/
theorem aggregate_congr (lengths : ∀ series ∈ summaries, (values series).length = months)
    (otherLengths : ∀ series ∈ others, (values series).length = months)
    (same
      : ∀ month,
          Money.sum (column values summaries month) = Money.sum (column values others month))
    (formed : aggregate months values summaries = .ok sums)
    : aggregate months values others = .ok sums := by
  obtain ⟨length, columns⟩ := (aggregate_eq_ok_iff lengths).mp formed
  refine (aggregate_eq_ok_iff otherLengths).mpr ⟨length, ?_⟩
  intro month within
  obtain ⟨total, place, summed⟩ := columns month within
  exact ⟨total, place, (same month).symm.trans summed⟩

/-- Columns that are added up steadily in two orders have the same sums by month, to the last digit.
-/
theorem aggregate_of_steadily (same : summaries.Perm others)
    (lengths : ∀ series ∈ summaries, (values series).length = months)
    (steadily : ∀ month, Money.SumSteadily (column values summaries month))
    (reordered : ∀ month, Money.SumSteadily (column values others month))
    (formed : aggregate months values summaries = .ok sums)
    : aggregate months values others = .ok sums :=
  aggregate_congr lengths (fun series member => lengths series (same.mem_iff.mpr member))
    (fun month => (steadily month).sum_eq (reordered month) (column_perm same month)) formed

/-- Columns that are added up without rounding in two orders have sums by month of the same values.
-/
theorem toRat_aggregate_perm (same : summaries.Perm others)
    (lengths : ∀ series ∈ summaries, (values series).length = months)
    (exactly : ∀ month, Money.SumExactly (column values summaries month))
    (reordered : ∀ month, Money.SumExactly (column values others month))
    (formed : aggregate months values summaries = .ok sums)
    (otherFormed : aggregate months values others = .ok totals)
    : totals.map Money.toRat = sums.map Money.toRat := by
  obtain ⟨length, columns⟩ := (aggregate_eq_ok_iff lengths).mp formed
  obtain ⟨otherLength, otherColumns⟩ :=
    (aggregate_eq_ok_iff fun series member => lengths series (same.mem_iff.mpr member)).mp
      otherFormed
  apply List.ext_getElem?
  intro month
  rcases lt_or_ge month months with within | beyond
  · obtain ⟨sum, place, summed⟩ := columns month within
    obtain ⟨total, otherPlace, otherSummed⟩ := otherColumns month within
    have value := (exactly month).toRat_sum summed
    have otherValue := (reordered month).toRat_sum otherSummed
    rw [List.getElem?_map, List.getElem?_map, place, otherPlace, Option.map_some, Option.map_some,
      value, otherValue, ((column_perm same month).map Money.toRat).sum_eq]
  · rw [List.getElem?_eq_none, List.getElem?_eq_none]
    · rwa [List.length_map, length]
    · rwa [List.length_map, otherLength]

/-- Columns that are added up without rounding in two orders have sums by month in the second one if
they have them in the first one, and they are of the same values.
-/
theorem exists_aggregate_perm (same : summaries.Perm others)
    (lengths : ∀ series ∈ summaries, (values series).length = months)
    (exactly : ∀ month, Money.SumExactly (column values summaries month))
    (reordered : ∀ month, Money.SumExactly (column values others month))
    (formed : aggregate months values summaries = .ok sums)
    : ∃ totals,
        aggregate months values others = .ok totals
        ∧ totals.map Money.toRat = sums.map Money.toRat := by
  have otherLengths (series : BalanceSeries) (member : series ∈ others) :=
    lengths series (same.mem_iff.mpr member)
  obtain ⟨totals, length, columns⟩ := @exists_sums values others months (by
    intro month _
    obtain ⟨total, summed, _⟩ := Money.sum_exact (reordered month).places (reordered month).range
    exact ⟨total, summed⟩)
  have otherFormed := (aggregate_eq_ok_iff otherLengths).mpr ⟨length, columns⟩
  exact ⟨totals, otherFormed,
    toRat_aggregate_perm same lengths exactly reordered formed otherFormed⟩

end Columns

end SummaryCache

end ChargeBasis

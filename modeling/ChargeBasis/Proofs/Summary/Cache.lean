import ChargeBasis.Summary.SummaryCache
import ChargeBasis.Proofs.Money.Exactness
import ChargeBasis.Proofs.Source.Reading

/-!
The kept series and their sums. What a call leaves of the cache is there whether it succeeds or
fails. Series stand in ascending order of loans whatever the order in which they come, and the sums
over a category are exact month by month, so that the sum over the months of the sums over loans is
the sum over loans of their own sums.
-/

namespace ChargeBasis

-----------------------------------------------------------------------------------------
-- Calls
-----------------------------------------------------------------------------------------

namespace Caching

variable {α β : Type}

@[simp] theorem runAfter_pure (a : α) (cache : SummaryCache) (log : FetchLog)
    : (pure a : Caching α).runAfter cache log = ((.ok a, cache), log) :=
  rfl

@[simp] theorem runAfter_getThe (cache : SummaryCache) (log : FetchLog)
    : (getThe SummaryCache : Caching SummaryCache).runAfter cache log
      = ((.ok cache, cache), log) :=
  rfl

@[simp] theorem runAfter_ofReading (reading : Reading α) (cache : SummaryCache) (log : FetchLog)
    : (ofReading reading).runAfter cache log
      = (((reading.runAfter log).1, cache), (reading.runAfter log).2) :=
  rfl

/-- A run goes on with the value of a step on the cache that it leaves, and ends with the fault of
one and with the cache that this one leaves.
-/
theorem runAfter_bind (caching : Caching α) (next : α → Caching β) (cache : SummaryCache)
    (log : FetchLog)
    : (caching >>= next).runAfter cache log
      = match caching.runAfter cache log with
        | ((.ok a, left), after) => (next a).runAfter left after
        | ((.error fault, left), after) => ((.error fault, left), after) := by
  unfold runAfter ExceptT.run StateT.run
  simp only [bind, ExceptT.bind, ExceptT.mk, StateT.bind, ExceptT.bindCont]
  rcases caching cache log with ⟨⟨fault | a, left⟩, after⟩ <;> rfl

/-- An attempt has the cache that is left beside the value or the charge error. -/
theorem runAfter_attemptOn (caching : Caching α) (cache : SummaryCache) (log : FetchLog)
    : (caching.attemptOn cache).runAfter log
      = match caching.runAfter cache log with
        | ((.ok a, left), after) => (.ok (.ok a, left), after)
        | ((.error (.failed e), left), after) => (.ok (.error e, left), after)
        | ((.error (.overflowed kind), _), after) => (.error (.overflowed kind), after) := by
  unfold attemptOn runAfter Reading.runAfter ExceptT.run StateT.run
  simp only [bind, ExceptT.mk, StateT.bind]
  rcases caching cache log with ⟨⟨(e | kind) | a, left⟩, after⟩ <;> rfl

end Caching

namespace SummaryCache

variable {cache : SummaryCache} {loan : Loan}

/-- A series that is kept is the answer to every call for its loan. -/
theorem runAfter_getOrCompute_of_get? {series : BalanceSeries}
    (found : cache.get? loan.id = some series) {builder : SummaryBuilder} {product : LoanProduct}
    {mode : SummaryMode} {log : FetchLog}
    : (getOrCompute builder loan product mode).runAfter cache log
      = ((.ok series, cache), log) := by
  rw [getOrCompute, Caching.runAfter_bind, Caching.runAfter_getThe]
  simp only [found, Caching.runAfter_pure]

/-- Without a series of the loan it is built. The cache is written after that, so that a failure
finds it as it was.
-/
theorem runAfter_getOrCompute_of_absent (absent : cache.get? loan.id = none)
    (builder : SummaryBuilder) (product : LoanProduct) (mode : SummaryMode) (log : FetchLog)
    : (getOrCompute builder loan product mode).runAfter cache log
      = match (builder.build loan product mode).runAfter log with
        | (.ok series, after) => ((.ok series, cache.insert series), after)
        | (.error fault, after) => ((.error fault, cache), after) := by
  rw [getOrCompute, Caching.runAfter_bind, Caching.runAfter_getThe]
  simp only [absent, Caching.runAfter_bind, Caching.runAfter_ofReading]
  rcases (builder.build loan product mode).runAfter log with ⟨fault | series, after⟩ <;> rfl

end SummaryCache

-----------------------------------------------------------------------------------------
-- Values by month
-----------------------------------------------------------------------------------------

/-- The value of a month in a list of monthly amounts, which is nothing beyond its end. -/
def valueIn (amounts : List Money) (month : Nat) : ℚ :=
  (amounts.map Money.toRat).getD month 0

theorem abs_valueIn_le (amounts : List Money) (month : Nat)
    : |valueIn amounts month| ≤ magnitude amounts := by
  induction amounts generalizing month with
  | nil => simp [valueIn, magnitude]
  | cons amount rest ih =>
      rw [magnitude_cons]
      cases month with
      | zero => exact le_add_of_nonneg_right (magnitude_nonneg rest)
      | succ month => exact (ih month).trans (le_add_of_nonneg_left (abs_nonneg _))

/-- The magnitudes add up month by month. -/
theorem magnitude_eq_sum (amounts : List Money)
    : magnitude amounts = ∑ month ∈ Finset.range amounts.length, |valueIn amounts month| := by
  induction amounts with
  | nil => rfl
  | cons amount rest ih =>
      rw [magnitude_cons, ih, List.length_cons, Finset.sum_range_succ', add_comm]
      rfl

theorem valueIn_replicate_zero (months month : Nat)
    : valueIn (List.replicate months .zero) month = 0 := by
  simp only [valueIn, List.map_replicate, Money.toRat_zero, List.getD_eq_getElem?_getD,
    List.getElem?_replicate]
  split <;> rfl

/-- The amounts add up month by month. -/
theorem sum_valueIn (amounts : List Money)
    : (amounts.map Money.toRat).sum
      = ∑ month ∈ Finset.range amounts.length, valueIn amounts month := by
  induction amounts with
  | nil => rfl
  | cons amount rest ih =>
      rw [List.map_cons, List.sum_cons, ih, List.length_cons, Finset.sum_range_succ', add_comm]
      rfl

/-- Adding up by item and then by month is adding up by month and then by item. -/
theorem sum_exchange {α : Type} (items : List α) (value : α → Nat → ℚ) (months : Nat)
    : (items.map fun item => ∑ month ∈ Finset.range months, value item month).sum
      = ∑ month ∈ Finset.range months, (items.map fun item => value item month).sum := by
  induction items with
  | nil => simp
  | cons item rest ih => simp [ih, Finset.sum_add_distrib]

/-- Sums by month over several lists of amounts stay in range if all magnitudes together do. -/
theorem partialSumsInRange_byMonth {α : Type} {items : List α} {values : α → List Money}
    (bound : (items.map fun item => magnitude (values item)).sum ≤ Money.exactLimit) (month : Nat)
    : Money.PartialSumsInRange (items.map fun item => valueIn (values item) month) := by
  apply Money.partialSumsInRange_of_abs
  rw [List.map_map]
  exact (List.sum_le_sum fun item _ => abs_valueIn_le (values item) month).trans bound

namespace SummaryCache

-----------------------------------------------------------------------------------------
-- Kept series
-----------------------------------------------------------------------------------------

/-- The series come in ascending order of loans and one for each. -/
def Ascending (summaries : List BalanceSeries) : Prop :=
  summaries.Pairwise fun a b => a.loan < b.loan

theorem contains_iff {cache : SummaryCache} {loan : LoanId}
    : cache.contains loan = true ↔ loan ∈ cache.summaries.map (·.loan) := by
  simp [contains, get?, List.find?_isSome]

theorem get?_eq_none {cache : SummaryCache} {loan : LoanId} (absent : cache.contains loan = false)
    : cache.get? loan = none := by
  rw [contains, Option.isSome_eq_false_iff, Option.isNone_iff_eq_none] at absent
  exact absent

theorem insertSeries_perm (new : BalanceSeries) (summaries : List BalanceSeries)
    : (insertSeries new summaries).Perm (new :: summaries) := by
  induction summaries with
  | nil => exact .refl _
  | cons series rest ih =>
      unfold insertSeries
      split
      · exact .refl _
      · exact (ih.cons series).trans (.swap new series rest)

/-- The series of a loan without one finds its place in the order. -/
theorem ascending_insertSeries {new : BalanceSeries} {summaries : List BalanceSeries}
    (ascending : Ascending summaries) (absent : new.loan ∉ summaries.map (·.loan))
    : Ascending (insertSeries new summaries) := by
  induction summaries with
  | nil => exact List.pairwise_singleton _ _
  | cons series rest ih =>
      obtain ⟨later, restAscending⟩ := List.pairwise_cons.mp ascending
      simp only [List.map_cons, List.mem_cons, not_or] at absent
      unfold insertSeries
      split
      · next early =>
        refine List.pairwise_cons.mpr ⟨?_, ascending⟩
        intro other member
        rcases List.mem_cons.mp member with rfl | member
        · exact early
        · exact UInt64.lt_trans early (later other member)
      · next notEarly =>
        refine List.pairwise_cons.mpr ⟨?_, ih restAscending absent.2⟩
        intro other member
        rcases List.mem_cons.mp ((insertSeries_perm new rest).mem_iff.mp member)
          with rfl | member
        · exact UInt64.lt_of_le_of_ne (UInt64.not_lt.mp notEarly) (Ne.symm absent.1)
        · exact later other member

-----------------------------------------------------------------------------------------
-- Sums
-----------------------------------------------------------------------------------------

/-- Amounts are added to totals month by month without rounding if every sum is in range. -/
theorem addMonthly_exact {totals amounts : List Money} (lengths : amounts.length = totals.length)
    (totalPlaces : ∀ m ∈ totals, m.Settled) (places : ∀ m ∈ amounts, m.Settled)
    (range : ∀ month, Money.InRange (valueIn totals month + valueIn amounts month))
    : ∃ sums,
        addMonthly totals amounts = .ok sums
        ∧ sums.length = totals.length
        ∧ (∀ m ∈ sums, m.Settled)
        ∧ ∀ month, valueIn sums month = valueIn totals month + valueIn amounts month := by
  induction totals generalizing amounts with
  | nil =>
      cases List.length_eq_zero_iff.mp lengths
      exact ⟨[], rfl, rfl, by simp, by simp [valueIn]⟩
  | cons total totals ih =>
      obtain ⟨amount, rest, rfl⟩ := List.exists_cons_of_length_eq_add_one lengths
      obtain ⟨sum, added, sumSettled, value⟩ :=
        Money.add_exact (totalPlaces total (by simp)) (places amount (by simp)) (range 0)
      obtain ⟨sums, addedRest, length, settled, values⟩ :=
        ih (Nat.succ.inj lengths) (fun m member => totalPlaces m (by simp [member]))
          (fun m member => places m (by simp [member])) fun month => range (month + 1)
      refine ⟨sum :: sums, ?_, congrArg Nat.succ length, ?_, ?_⟩
      · simp only [addMonthly, added, addedRest, bind, Except.bind, pure, Except.pure]
      · intro m member
        rcases List.mem_cons.mp member with rfl | member
        · exact sumSettled
        · exact settled m member
      · intro month
        cases month with
        | zero => exact value
        | succ month => exact values month

/-- Series are added to totals month by month without rounding if every sum on the way is in range,
by induction over the series.
-/
theorem foldlM_addSeries_exact {values : BalanceSeries → List Money} {totals : List Money}
    {summaries : List BalanceSeries}
    (lengths : ∀ series ∈ summaries, (values series).length = totals.length)
    (totalPlaces : ∀ m ∈ totals, m.Settled)
    (places : ∀ series ∈ summaries, ∀ m ∈ values series, m.Settled)
    (range
      : ∀ month front,
          front <+: summaries
          → Money.InRange
              (valueIn totals month + (front.map fun s => valueIn (values s) month).sum))
    : ∃ sums,
        summaries.foldlM (addSeries values) totals = .ok sums
        ∧ sums.length = totals.length
        ∧ (∀ m ∈ sums, m.Settled)
        ∧ ∀ month,
            valueIn sums month
            = valueIn totals month + (summaries.map fun s => valueIn (values s) month).sum := by
  induction summaries generalizing totals with
  | nil => exact ⟨totals, rfl, rfl, totalPlaces, by simp⟩
  | cons series rest ih =>
      obtain ⟨next, added, nextLength, nextPlaces, nextValues⟩ :=
        addMonthly_exact (lengths series (by simp)) totalPlaces (places series (by simp))
          fun month => by simpa using range month [series] (by simp)
      have step : addSeries values totals series = .ok next := by
        rw [addSeries, if_pos (lengths series (by simp)), added]
        rfl
      obtain ⟨sums, folded, length, settled, sumValues⟩ :=
        ih (fun s member => (lengths s (by simp [member])).trans nextLength.symm) nextPlaces
          (fun s member => places s (by simp [member])) (by
            intro month front leading
            have longer := range month (series :: front) (by simpa using leading)
            rwa [List.map_cons, List.sum_cons, ← add_assoc, ← nextValues] at longer)
      refine ⟨sums, ?_, length.trans nextLength, settled, ?_⟩
      · rw [List.foldlM_cons, step]
        exact folded
      · intro month
        rw [sumValues, nextValues, List.map_cons, List.sum_cons, add_assoc]

/-- The sums over series are exact in every month if every sum on the way is in range. -/
theorem aggregate_exact {values : BalanceSeries → List Money} {months : Nat}
    {summaries : List BalanceSeries}
    (lengths : ∀ series ∈ summaries, (values series).length = months)
    (places : ∀ series ∈ summaries, ∀ m ∈ values series, m.Settled)
    (range
      : ∀ month, Money.PartialSumsInRange (summaries.map fun s => valueIn (values s) month))
    : ∃ sums,
        aggregate months values summaries = .ok sums
        ∧ sums.length = months
        ∧ (∀ m ∈ sums, m.Settled)
        ∧ ∀ month,
            valueIn sums month = (summaries.map fun s => valueIn (values s) month).sum := by
  obtain ⟨sums, folded, length, settled, sumValues⟩ :=
    @foldlM_addSeries_exact values (List.replicate months .zero) summaries
      (fun s member => by rw [List.length_replicate, lengths s member])
      (fun m member => (List.eq_of_mem_replicate member) ▸ Money.settled_zero) places (by
        intro month front leading
        rw [valueIn_replicate_zero, zero_add]
        exact range month _ (leading.map _))
  refine ⟨sums, folded, by rwa [List.length_replicate] at length, settled, ?_⟩
  intro month
  rw [sumValues, valueIn_replicate_zero, zero_add]

/-- Exact sums by month have no larger magnitudes than the series together. -/
theorem magnitude_sums_le {values : BalanceSeries → List Money} {months : Nat}
    {summaries : List BalanceSeries} {sums : List Money}
    (lengths : ∀ series ∈ summaries, (values series).length = months)
    (length : sums.length = months)
    (exact
      : ∀ month, valueIn sums month = (summaries.map fun s => valueIn (values s) month).sum)
    : magnitude sums ≤ (summaries.map fun s => magnitude (values s)).sum := by
  have rows
      : (summaries.map fun s => magnitude (values s))
        = summaries.map fun s => ∑ month ∈ Finset.range months, |valueIn (values s) month| := by
    apply List.map_congr_left
    intro s member
    rw [magnitude_eq_sum, lengths s member]
  rw [rows, sum_exchange, magnitude_eq_sum, length]
  apply Finset.sum_le_sum
  intro month _
  have triangle := Money.abs_sum_le (summaries.map fun s => valueIn (values s) month)
  rwa [List.map_map, ← exact] at triangle

/-- What the months of exact sums add up to is what the series add up to on their own. -/
theorem sum_of_aggregate {values : BalanceSeries → List Money} {months : Nat}
    {summaries : List BalanceSeries} {sums : List Money}
    (lengths : ∀ series ∈ summaries, (values series).length = months)
    (length : sums.length = months)
    (exact
      : ∀ month, valueIn sums month = (summaries.map fun s => valueIn (values s) month).sum)
    : (sums.map Money.toRat).sum
      = (summaries.map fun s => ((values s).map Money.toRat).sum).sum := by
  have rows
      : (summaries.map fun s => ((values s).map Money.toRat).sum)
        = summaries.map fun s => ∑ month ∈ Finset.range months, valueIn (values s) month := by
    apply List.map_congr_left
    intro s member
    rw [sum_valueIn, lengths s member]
  rw [rows, sum_exchange, sum_valueIn, length]
  exact Finset.sum_congr rfl fun month _ => exact month

/-- Sums that were formed over series are exact: month by month, and over all months what the series
add up to on their own.
-/
theorem exact_of_aggregate {values : BalanceSeries → List Money} {months : Nat}
    {summaries : List BalanceSeries} {sums : List Money}
    (h : aggregate months values summaries = .ok sums)
    (lengths : ∀ series ∈ summaries, (values series).length = months)
    (places : ∀ series ∈ summaries, ∀ m ∈ values series, m.Settled)
    (range
      : ∀ month, Money.PartialSumsInRange (summaries.map fun s => valueIn (values s) month))
    : sums.length = months
      ∧ (∀ m ∈ sums, m.Settled)
      ∧ (∀ month,
          valueIn sums month = (summaries.map fun s => valueIn (values s) month).sum)
      ∧ (sums.map Money.toRat).sum
        = (summaries.map fun s => ((values s).map Money.toRat).sum).sum := by
  obtain ⟨_, formed, length, settled, exact⟩ := aggregate_exact lengths places range
  cases h.symm.trans formed
  exact ⟨length, settled, exact, sum_of_aggregate lengths length exact⟩

theorem length_of_addMonthly {totals amounts sums : List Money}
    (h : addMonthly totals amounts = .ok sums)
    : sums.length = totals.length := by
  induction totals generalizing amounts sums with
  | nil =>
      cases h
      rfl
  | cons total totals ih =>
      cases amounts with
      | nil =>
          cases h
          rfl
      | cons amount rest =>
          simp only [addMonthly, Except.bind_eq_ok_iff] at h
          obtain ⟨sum, _, sums, added, same⟩ := h
          cases same
          exact congrArg Nat.succ (ih added)

/-- With series of the right length adding them up can only overflow, by induction over them. -/
theorem foldlM_addSeries_ne_failed {values : BalanceSeries → List Money} {totals : List Money}
    {summaries : List BalanceSeries}
    (lengths : ∀ series ∈ summaries, (values series).length = totals.length)
    (error : ChargeError)
    : summaries.foldlM (addSeries values) totals ≠ .error (.failed error) := by
  induction summaries generalizing totals with
  | nil => nofun
  | cons series rest ih =>
      have step
          : addSeries values totals series
            = (addMonthly totals (values series)).mapError .overflowed := by
        rw [addSeries, if_pos (lengths series (by simp))]
        rfl
      rw [List.foldlM_cons, step]
      rcases added : addMonthly totals (values series) with kind | next
      · nofun
      · exact ih fun s member =>
          (lengths s (by simp [member])).trans (length_of_addMonthly added).symm

theorem aggregate_ne_failed {values : BalanceSeries → List Money} {months : Nat}
    {summaries : List BalanceSeries}
    (lengths : ∀ series ∈ summaries, (values series).length = months) (error : ChargeError)
    : aggregate months values summaries ≠ .error (.failed error) :=
  foldlM_addSeries_ne_failed
    (fun s member => by rw [List.length_replicate, lengths s member]) error

end SummaryCache

end ChargeBasis

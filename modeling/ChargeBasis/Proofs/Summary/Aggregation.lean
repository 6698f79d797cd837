import ChargeBasis.Proofs.Summary.CacheRuns
import ChargeBasis.Proofs.Summary.Quarters

/-!
Sums by month over the series of a category. They are refused exactly if one of these series has not
as many months as the cache, with an error that names such a series; otherwise there is a sum for
each month. The order in which the series are visited does not matter for this, and series of the
other category do not matter at all.
-/

namespace ChargeBasis

namespace SummaryCache

variable {values : BalanceSeries → List Money} {summaries : List BalanceSeries}
  {totals sums : List Money} {months : Nat}

-----------------------------------------------------------------------------------------
-- Refusals
-----------------------------------------------------------------------------------------

/-- A series is added only if it has an amount for each total. -/
theorem lengths_of_addSeries {series : BalanceSeries}
    (h : addSeries values totals series = .ok sums)
    : (values series).length = totals.length ∧ sums.length = totals.length := by
  unfold addSeries at h
  split at h
  · next lengths => exact ⟨lengths, length_of_addMonthly (Except.mapError_eq_ok_iff.mp h)⟩
  · cases h

/-- A series is refused only for its number of amounts, and the error names both. -/
theorem refused_of_addSeries {series : BalanceSeries} {error : ChargeError}
    (h : addSeries values totals series = .error (.failed error))
    : (values series).length ≠ totals.length
      ∧ error
        = .inconsistentSeriesLength series.loan totals.length (values series).length := by
  unfold addSeries at h
  split at h
  · exact absurd h (Except.mapError_overflowed_ne_failed _ error)
  · next lengths =>
    cases h
    exact ⟨lengths, rfl⟩

/-- Series that were added all had an amount for each total, by induction over them. -/
theorem lengths_of_foldlM_addSeries (h : summaries.foldlM (addSeries values) totals = .ok sums)
    : (∀ series ∈ summaries, (values series).length = totals.length)
      ∧ sums.length = totals.length := by
  induction summaries generalizing totals with
  | nil =>
      cases h
      exact ⟨by simp, rfl⟩
  | cons series rest ih =>
      rw [List.foldlM_cons, Except.bind_eq_ok_iff] at h
      obtain ⟨next, added, others⟩ := h
      obtain ⟨own, kept⟩ := lengths_of_addSeries added
      obtain ⟨each, length⟩ := ih others
      rw [kept] at each length
      exact ⟨by simpa [own] using each, length⟩

/-- The error of a refusal names one of the series, by induction over them. -/
theorem refused_of_foldlM_addSeries {error : ChargeError}
    (h : summaries.foldlM (addSeries values) totals = .error (.failed error))
    : ∃ series ∈ summaries,
        (values series).length ≠ totals.length
        ∧ error
          = .inconsistentSeriesLength series.loan totals.length (values series).length := by
  induction summaries generalizing totals with
  | nil => cases h
  | cons series rest ih =>
      rw [List.foldlM_cons] at h
      rcases added : addSeries values totals series with fault | next
      · rw [added] at h
        cases h
        exact ⟨series, by simp, refused_of_addSeries added⟩
      · rw [added] at h
        obtain ⟨other, member, refused⟩ := ih h
        rw [(lengths_of_addSeries added).2] at refused
        exact ⟨other, by simp [member], refused⟩

-----------------------------------------------------------------------------------------
-- Sums in any order
-----------------------------------------------------------------------------------------

/-- The cache with its series in another order. -/
def visiting (cache : SummaryCache) (visited : List BalanceSeries) : SummaryCache :=
  { cache with summaries := visited }

/-- What adding up the values of some series by month comes to. Overflows aside it is refused
exactly if a series has another number of months, one of which the error names; otherwise there is
a sum for each month, which is nothing without series, and exact as long as every sum on the way is
in range.
-/
structure SumsUnlessRefused (months : Nat) (values : BalanceSeries → List Money)
    (summaries : List BalanceSeries) (outcome : Except Fault (List Money))
    : Prop where
  refused_iff
    : (∀ kind, outcome ≠ .error (.overflowed kind))
      → ((∃ error, outcome = .error (.failed error))
        ↔ ∃ series ∈ summaries, series.length ≠ months)
  named
    : ∀ error,
        outcome = .error (.failed error)
        → ∃ series ∈ summaries,
            series.length ≠ months
            ∧ error = .inconsistentSeriesLength series.loan months series.length
  complete : ∀ sums, outcome = .ok sums → sums.length = months
  nothing : summaries = [] → outcome = .ok (List.replicate months .zero)
  exact
    : (∀ series ∈ summaries, series.length = months)
      → (∀ series ∈ summaries, ∀ m ∈ values series, m.Settled)
      → (∀ month, Money.PartialSumsInRange (summaries.map fun s => valueIn (values s) month))
      → ∃ sums,
          outcome = .ok sums
          ∧ sums.length = months
          ∧ ∀ month < months,
              valueIn sums month = (summaries.map fun s => valueIn (values s) month).sum

/-- Adding up by month does so whenever the series have a value for each of their months. -/
theorem sumsUnlessRefused_aggregate
    (lengths : ∀ series ∈ summaries, (values series).length = series.length)
    : SumsUnlessRefused months values summaries (aggregate months values summaries) := by
  have start : (List.replicate months Money.zero).length = months := List.length_replicate
  have named (error : ChargeError)
      (failed : aggregate months values summaries = .error (.failed error))
      : ∃ series ∈ summaries,
          series.length ≠ months
          ∧ error = .inconsistentSeriesLength series.loan months series.length := by
    obtain ⟨series, member, refused⟩ := refused_of_foldlM_addSeries failed
    rw [lengths series member, start] at refused
    exact ⟨series, member, refused⟩
  refine ⟨?_, named, ?_, ?_, ?_⟩
  · intro fits
    constructor
    · intro failure
      obtain ⟨error, failed⟩ := failure
      obtain ⟨series, member, other, _⟩ := named error failed
      exact ⟨series, member, other⟩
    · intro mismatch
      obtain ⟨series, member, other⟩ := mismatch
      rcases outcome : aggregate months values summaries with (error | kind) | sums
      · exact ⟨error, rfl⟩
      · exact absurd outcome (fits kind)
      · have same := (lengths_of_foldlM_addSeries outcome).1 series member
        rw [lengths series member, start] at same
        exact absurd same other
  · intro sums formed
    exact (lengths_of_foldlM_addSeries formed).2.trans start
  · rintro rfl
    rfl
  · intro months' places range
    obtain ⟨sums, formed, length, _, exact⟩ :=
      aggregate_exact (fun s member => (lengths s member).trans (months' s member)) places range
    exact ⟨sums, formed, length, fun month _ => exact month⟩

/-- Every series in a cache has as many repayments as balances. -/
theorem length_repayments_of_mem_afterCalls {period : ChargePeriod} {calls : List CacheCall}
    {series : BalanceSeries} (member : series ∈ (afterCalls period calls).summaries)
    : series.repayments.length = series.length := by
  have holds := holdsFirstBuilt_afterCalls period calls
  rw [mem_summaries_iff holds.ascending, holds.get?_eq] at member
  obtain ⟨call, _, built⟩ := List.exists_of_findSome?_eq_some member
  unfold CacheCall.built? at built
  split at built
  · rcases alone : call.buildAlone with ⟨fault | other, log⟩
    · rw [alone] at built
      cases built
    · rw [alone] at built
      cases built
      obtain ⟨balances, repayments⟩ := SummaryBuilder.length_of_build alone
      exact repayments.trans balances.symm
  · cases built

/-- Whatever series a cache has come to hold and in whatever order they are visited, the balances
and the repayments of a category are added up by month, or refused for a series of the category that
has another number of months than the cache; and only the series of the category decide on the
outcome.
-/
theorem monthly_sums_unless_refused (period : ChargePeriod) (calls : List CacheCall)
    (isDemandLoan : Bool) {visited : List BalanceSeries}
    (same : visited.Perm (afterCalls period calls).summaries)
    : SumsUnlessRefused (afterCalls period calls).months (·.outstanding)
        (visited.filter fun series => series.isDemandLoan == isDemandLoan)
        (((afterCalls period calls).visiting visited).monthlyOutstanding isDemandLoan)
      ∧ SumsUnlessRefused (afterCalls period calls).months (·.repayments)
          (visited.filter fun series => series.isDemandLoan == isDemandLoan)
          (((afterCalls period calls).visiting visited).monthlyRepayments isDemandLoan)
      ∧ ∀ others : List BalanceSeries,
          (others.filter fun series => series.isDemandLoan == isDemandLoan)
            = (visited.filter fun series => series.isDemandLoan == isDemandLoan)
          → ((afterCalls period calls).visiting others).monthlyOutstanding isDemandLoan
              = ((afterCalls period calls).visiting visited).monthlyOutstanding isDemandLoan
            ∧ ((afterCalls period calls).visiting others).monthlyRepayments isDemandLoan
              = ((afterCalls period calls).visiting visited).monthlyRepayments isDemandLoan := by
  refine ⟨sumsUnlessRefused_aggregate fun _ _ => rfl, sumsUnlessRefused_aggregate ?_, ?_⟩
  · intro series member
    exact length_repayments_of_mem_afterCalls (same.mem_iff.mp (List.mem_of_mem_filter member))
  · intro others category
    constructor
    · exact congrArg (aggregate _ _) category
    · exact congrArg (aggregate _ _) category

end SummaryCache

/-- A call for the year of a term loan, whose series is too long for a cache of a quarter. -/
def Sample.overlong : CacheCall :=
  { built with
    builder := ⟨periodOf .yearly, Ledger.empty.source, .weightedSum, 2⟩
    loan := { loan with id := 8 }
    product := { product with category := .term } }

/-- The series of the year is refused among the term loans and does not keep the sample loan from
being added up.
-/
theorem SummaryCache.monthly_sums_unless_refused_sample
    : let cache := afterCalls Sample.quarter [Sample.built, Sample.overlong]
      cache.summaries.reverse.Perm cache.summaries
      ∧ (∃ series ∈ cache.summaries,
          series.length ≠ 3
          ∧ (cache.visiting cache.summaries.reverse).monthlyOutstanding false
            = .error (.failed (.inconsistentSeriesLength series.loan 3 series.length)))
      ∧ ∃ sums,
          (cache.visiting cache.summaries.reverse).monthlyOutstanding true = .ok sums
          ∧ sums.length = 3
          ∧ valueIn sums 1 = 13132.5 := by
  intro cache
  have evaluated
      : cache.months = 3
        ∧ (∀ kind ∈ [Overflow.addition, .subtraction, .multiplication],
            (cache.visiting cache.summaries.reverse).monthlyOutstanding false
            ≠ .error (.overflowed kind))
        ∧ (∃ series ∈ cache.summaries.reverse.filter fun series => series.isDemandLoan == false,
            series.length ≠ 3)
        ∧ (∀ series ∈ cache.summaries.reverse.filter fun series => series.isDemandLoan == true,
            series.length = 3 ∧ ∀ m ∈ series.outstanding, m.Settled)
        ∧ ((cache.summaries.reverse.filter fun series => series.isDemandLoan == true).map
              fun series => magnitude series.outstanding).sum
          ≤ Money.exactLimit
        ∧ ((cache.summaries.reverse.filter fun series => series.isDemandLoan == true).map
              fun series => valueIn series.outstanding 1).sum
          = 13132.5 := by
    decide +kernel
  obtain ⟨months, overflows, mismatch, lengths, bound, value⟩ := evaluated
  have same : cache.summaries.reverse.Perm cache.summaries := List.reverse_perm _
  have sums (isDemandLoan : Bool)
      : SumsUnlessRefused cache.months (·.outstanding)
          (cache.summaries.reverse.filter fun series => series.isDemandLoan == isDemandLoan)
          ((cache.visiting cache.summaries.reverse).monthlyOutstanding isDemandLoan) :=
    (monthly_sums_unless_refused Sample.quarter _ isDemandLoan same).1
  rw [months] at sums
  clear_value cache
  refine ⟨same, ?_, ?_⟩
  · have noOverflow := fun kind => overflows kind (by cases kind <;> decide)
    obtain ⟨error, refused⟩ := ((sums false).refused_iff noOverflow).mpr mismatch
    obtain ⟨series, member, other, rfl⟩ := (sums false).named error refused
    exact ⟨series, same.mem_iff.mp (List.mem_of_mem_filter member), other, refused⟩
  · obtain ⟨totals, formed, length, values⟩ :=
      (sums true).exact (fun s member => (lengths s member).1)
        (fun s member => (lengths s member).2) (partialSumsInRange_byMonth bound)
    exact ⟨totals, formed, length, (values 1 (by decide)).trans value⟩

end ChargeBasis

import ChargeBasis.Encoding.Report
import ChargeBasis.Proofs.Assessment.Conclusion
import ChargeBasis.Proofs.Money.Values
import ChargeBasis.Proofs.Summary.Columns

/-!
The order in which a run adds up its series. They are listed by loan, but the sums by category may
visit them in any order. All that a run reports besides these sums is the same in every order, and
so are the values of the sums as long as nothing is rounded. How a sum is written does depend on the
order if it comes back to zero on the way, and with it the text of the report.
-/

namespace ChargeBasis

/-- Something holds of what the visited series have for each month, in each category. -/
def SummaryCache.EveryColumn (P : List Money → Prop) (visited : List BalanceSeries) : Prop :=
  ∀ (isDemandLoan : Bool) (month : Nat),
    P (column (·.outstanding)
        (visited.filter fun series => series.isDemandLoan == isDemandLoan) month)
    ∧ P (column (·.repayments)
          (visited.filter fun series => series.isDemandLoan == isDemandLoan) month)

/-- Amounts none of which is negative are added up steadily in every column, whatever the order, if
all zeros among them are written without places.
-/
theorem SummaryCache.steadily_of_nonneg {summaries visited : List BalanceSeries}
    (same : visited.Perm summaries)
    (each
      : ∀ series ∈ summaries,
          ∀ m ∈ series.outstanding ++ series.repayments,
            m.Settled ∧ 0 ≤ m.toRat ∧ (m.isZero = true → m = .zero))
    (outstanding
      : (summaries.map fun series => magnitude series.outstanding).sum ≤ Money.exactLimit)
    (repayments
      : (summaries.map fun series => magnitude series.repayments).sum ≤ Money.exactLimit)
    : EveryColumn Money.SumSteadily visited := by
  have kept (isDemandLoan : Bool)
      : ∀ series ∈ visited.filter fun series => series.isDemandLoan == isDemandLoan,
          ∀ m ∈ series.outstanding ++ series.repayments,
            m.Settled ∧ 0 ≤ m.toRat ∧ (m.isZero = true → m = .zero) :=
    fun series member => each series (same.mem_iff.mp (List.mem_of_mem_filter member))
  have bound (values : BalanceSeries → List Money) (isDemandLoan : Bool)
      : ((visited.filter fun series => series.isDemandLoan == isDemandLoan).map fun series =>
          magnitude (values series)).sum
        ≤ (summaries.map fun series => magnitude (values series)).sum := by
    rw [← (same.map _).sum_eq]
    apply (List.filter_sublist.map _).sum_le_sum
    intro part member
    obtain ⟨series, _, rfl⟩ := List.mem_map.mp member
    exact magnitude_nonneg _
  intro isDemandLoan month
  constructor
  · exact steadily_column (fun series member m entry =>
      kept isDemandLoan series member m (List.mem_append_left _ entry))
      ((bound _ isDemandLoan).trans outstanding) month
  · exact steadily_column (fun series member m entry =>
      kept isDemandLoan series member m (List.mem_append_right _ entry))
      ((bound _ isDemandLoan).trans repayments) month

theorem SummaryCache.EveryColumn.exactly {visited : List BalanceSeries}
    (steadily : SummaryCache.EveryColumn Money.SumSteadily visited)
    : SummaryCache.EveryColumn Money.SumExactly visited :=
  fun isDemandLoan month =>
    ⟨(steadily isDemandLoan month).1.toSumExactly, (steadily isDemandLoan month).2.toSumExactly⟩

/-- The result with the sums by category of another one, which its last two events report. -/
def Assessment.withSumsOf (assessment other : Assessment) : Assessment :=
  { assessment with
    demandOutstanding := other.demandOutstanding
    termOutstanding := other.termOutstanding
    demandRepayments := other.demandRepayments
    termRepayments := other.termRepayments
    events :=
      assessment.events.take (assessment.events.length - 2)
        ++ other.events.drop (other.events.length - 2) }

/-- A result is another one but for how its sums by category are written, whose values are the same.
-/
structure Assessment.AgreesByValue (assessment other : Assessment) : Prop where
  withSums : assessment.withSumsOf other = other
  outstanding
    : ∀ isDemandLoan,
        (assessment.monthlyOutstanding isDemandLoan).map Money.toRat
        = (other.monthlyOutstanding isDemandLoan).map Money.toRat
  repayments
    : ∀ isDemandLoan,
        (assessment.monthlyRepayments isDemandLoan).map Money.toRat
        = (other.monthlyRepayments isDemandLoan).map Money.toRat
  totals
    : (categoryTotals assessment.events).map (fun entry => (entry.1, entry.2.toRat))
      = (categoryTotals other.events).map fun entry => (entry.1, entry.2.toRat)

namespace ChargeConfig

variable {config : ChargeConfig} {portfolio : Portfolio} {period : ChargePeriod}
  {progress : Progress} {assessment reordered : Assessment} {log after : FetchLog}
  {order other : List BalanceSeries → List BalanceSeries}

-----------------------------------------------------------------------------------------
-- Summing up
-----------------------------------------------------------------------------------------

/-- Results in two orders differ in the sums by category only. -/
theorem withSumsOf_of_concludeIn
    (concluded : concludeIn order portfolio period progress = .ok assessment)
    (otherConcluded : concludeIn other portfolio period progress = .ok reordered)
    : reordered.withSumsOf assessment = assessment := by
  have concludes := concludes_of_concludeIn concluded
  have otherConcludes := concludes_of_concludeIn otherConcluded
  have counts (isDemandLoan : Bool)
      : reordered.loanCount isDemandLoan = assessment.loanCount isDemandLoan :=
    (otherConcludes.loanCount isDemandLoan).trans (concludes.loanCount isDemandLoan).symm
  have run : reordered.run = assessment.run := otherConcludes.run.trans concludes.run.symm
  have period : reordered.period = assessment.period :=
    otherConcludes.period.trans concludes.period.symm
  have demand : reordered.demandLoanCount = assessment.demandLoanCount := counts true
  have term : reordered.termLoanCount = assessment.termLoanCount := counts false
  have total : reordered.totalOutstanding = assessment.totalOutstanding :=
    otherConcludes.totalOutstanding.trans concludes.totalOutstanding.symm
  have summaries : reordered.summaries = assessment.summaries :=
    otherConcludes.summaries.trans concludes.summaries.symm
  have failures : reordered.failures = assessment.failures :=
    otherConcludes.failures.trans concludes.failures.symm
  have events
      : reordered.events.take (reordered.events.length - 2)
          ++ assessment.events.drop (assessment.events.length - 2)
        = assessment.events := by
    obtain ⟨_, _, _, _, reported⟩ := concludes.events
    obtain ⟨_, _, _, _, otherReported⟩ := otherConcludes.events
    simp [reported, otherReported]
  rw [Assessment.withSumsOf, run, period, demand, term, total, summaries, failures, events]

section Sums

variable
  (lengths
    : ∀ series ∈ progress.cache.summaries,
        series.outstanding.length = progress.cache.months
        ∧ series.repayments.length = progress.cache.months)
  (same : (order progress.cache.summaries).Perm progress.cache.summaries)
  (otherSame : (other progress.cache.summaries).Perm progress.cache.summaries)

include lengths same otherSame

/-- Sums that are formed without rounding have the same values in two orders. -/
theorem toRat_of_concludeIn
    (exactly : SummaryCache.EveryColumn Money.SumExactly (order progress.cache.summaries))
    (reorderedExactly
      : SummaryCache.EveryColumn Money.SumExactly (other progress.cache.summaries))
    (concluded : concludeIn order portfolio period progress = .ok assessment)
    (otherConcluded : concludeIn other portfolio period progress = .ok reordered)
    (isDemandLoan : Bool)
    : (reordered.monthlyOutstanding isDemandLoan).map Money.toRat
        = (assessment.monthlyOutstanding isDemandLoan).map Money.toRat
      ∧ (reordered.monthlyRepayments isDemandLoan).map Money.toRat
        = (assessment.monthlyRepayments isDemandLoan).map Money.toRat := by
  have concludes := concludes_of_concludeIn concluded
  have otherConcludes := concludes_of_concludeIn otherConcluded
  have visited := (same.trans otherSame.symm).filter (·.isDemandLoan == isDemandLoan)
  have whole := lengths_visitedIn same lengths isDemandLoan
  constructor
  · exact SummaryCache.toRat_aggregate_perm visited (fun series member => (whole series member).1)
      (fun month => (exactly isDemandLoan month).1)
      (fun month => (reorderedExactly isDemandLoan month).1)
      (concludes.outstanding isDemandLoan) (otherConcludes.outstanding isDemandLoan)
  · exact SummaryCache.toRat_aggregate_perm visited (fun series member => (whole series member).2)
      (fun month => (exactly isDemandLoan month).2)
      (fun month => (reorderedExactly isDemandLoan month).2)
      (concludes.repayments isDemandLoan) (otherConcludes.repayments isDemandLoan)

/-- Sums that are formed steadily are the same in two orders, and so is the whole result. -/
theorem concludeIn_of_steadily
    (steadily : SummaryCache.EveryColumn Money.SumSteadily (order progress.cache.summaries))
    (reorderedSteadily
      : SummaryCache.EveryColumn Money.SumSteadily (other progress.cache.summaries))
    (concluded : concludeIn order portfolio period progress = .ok assessment)
    : concludeIn other portfolio period progress = .ok assessment := by
  have visited (isDemandLoan : Bool) :=
    (same.trans otherSame.symm).filter (·.isDemandLoan == isDemandLoan)
  have whole := lengths_visitedIn same lengths
  have concludes := concludes_of_concludeIn concluded
  refine concludeIn_of_concludes { concludes with
    outstanding := fun isDemandLoan => ?_
    repayments := fun isDemandLoan => ?_ }
  · exact SummaryCache.aggregate_of_steadily (visited isDemandLoan)
      (fun series member => (whole isDemandLoan series member).1)
      (fun month => (steadily isDemandLoan month).1)
      (fun month => (reorderedSteadily isDemandLoan month).1)
      (concludes.outstanding isDemandLoan)
  · exact SummaryCache.aggregate_of_steadily (visited isDemandLoan)
      (fun series member => (whole isDemandLoan series member).2)
      (fun month => (steadily isDemandLoan month).2)
      (fun month => (reorderedSteadily isDemandLoan month).2)
      (concludes.repayments isDemandLoan)

/-- Sums that are formed without rounding in one order can be formed in another one in which nothing
is rounded either, and the result is the same but for how they are written.
-/
theorem exists_agreesByValue
    (exactly : SummaryCache.EveryColumn Money.SumExactly (order progress.cache.summaries))
    (reorderedExactly
      : SummaryCache.EveryColumn Money.SumExactly (other progress.cache.summaries))
    (concluded : concludeIn order portfolio period progress = .ok assessment)
    : ∃ reordered,
        concludeIn other portfolio period progress = .ok reordered
        ∧ reordered.AgreesByValue assessment := by
  have concludes := concludes_of_concludeIn concluded
  have visited (isDemandLoan : Bool) :=
    (same.trans otherSame.symm).filter (·.isDemandLoan == isDemandLoan)
  have whole := lengths_visitedIn same lengths
  choose outstanding outstandingFormed outstandingValues using fun isDemandLoan =>
    SummaryCache.exists_aggregate_perm (visited isDemandLoan)
      (fun series member => (whole isDemandLoan series member).1)
      (fun month => (exactly isDemandLoan month).1)
      (fun month => (reorderedExactly isDemandLoan month).1) (concludes.outstanding isDemandLoan)
  choose repayments repaymentsFormed repaymentsValues using fun isDemandLoan =>
    SummaryCache.exists_aggregate_perm (visited isDemandLoan)
      (fun series member => (whole isDemandLoan series member).2)
      (fun month => (exactly isDemandLoan month).2)
      (fun month => (reorderedExactly isDemandLoan month).2) (concludes.repayments isDemandLoan)
  -- the totals of the reordered sums have the values of those that were formed first
  have total (isDemandLoan : Bool) {own : Money}
      (summed : Money.sum (assessment.monthlyOutstanding isDemandLoan) = .ok own)
      : ∃ total, Money.sum (outstanding isDemandLoan) = .ok total ∧ total.toRat = own.toRat := by
    have alike := Money.map_toRat_sum_congr (outstandingValues isDemandLoan)
    rw [summed] at alike
    exact Except.map_eq_ok_iff.mp alike
  obtain ⟨demand, term, demandFormed, termFormed, events⟩ := concludes.events
  obtain ⟨demandTotal, demandSummed, demandValue⟩ := total true demandFormed
  obtain ⟨termTotal, termSummed, termValue⟩ := total false termFormed
  let reordered : Assessment :=
    { assessment with
      demandOutstanding := outstanding true
      termOutstanding := outstanding false
      demandRepayments := repayments true
      termRepayments := repayments false
      events :=
        progress.trail.events
          ++ [.portfolioAggregated portfolio.run true assessment.demandLoanCount demandTotal,
            .portfolioAggregated portfolio.run false assessment.termLoanCount termTotal] }
  have result : concludeIn other portfolio period progress = .ok reordered :=
    concludeIn_of_concludes { concludes with
      outstanding := fun isDemandLoan => by cases isDemandLoan <;> exact outstandingFormed _
      repayments := fun isDemandLoan => by cases isDemandLoan <;> exact repaymentsFormed _
      events := ⟨demandTotal, termTotal, demandSummed, termSummed, rfl⟩ }
  refine ⟨reordered, result, withSumsOf_of_concludeIn concluded result,
    fun isDemandLoan => by cases isDemandLoan <;> exact outstandingValues _,
    fun isDemandLoan => by cases isDemandLoan <;> exact repaymentsValues _, ?_⟩
  rw [events]
  simp only [reordered, categoryTotals, List.filterMap_append, List.map_append]
  simp [demandValue, termValue]

end Sums

-----------------------------------------------------------------------------------------
-- Whole runs
-----------------------------------------------------------------------------------------

/-- A run that has a result in one order takes up the loans and sums them up in every order. -/
theorem exists_progress_of_assessIn
    (run : (assessIn order config portfolio).runAfter log = (.ok assessment, after))
    : ∃ period progress,
        (∀ order,
          (assessIn order config portfolio).runAfter log
          = (concludeIn order portfolio period progress, after))
        ∧ ∀ series ∈ progress.cache.summaries,
            series.outstanding.length = progress.cache.months
            ∧ series.repayments.length = progress.cache.months := by
  obtain ⟨period, progress, resolved, walk, _⟩ := exists_walk run
  obtain ⟨verdicts, records⟩ := (config.records_begin portfolio period log).foldlM walk
  refine ⟨period, progress, fun order => ?_, records.lengths⟩
  rw [runAfter_assessIn_of_resolved order resolved, walk]

/-- An assessment visits the series by loan. A run with a result in one order makes the same
requests in every other one, and a result there differs in nothing but the sums by category. These
have the same values if they are formed without rounding in both orders; if they are formed steadily
in both, the other order has the very same result, and the text of its report is the same to the
last character.
-/
theorem assessIn_orders
    (run : (assessIn order config portfolio).runAfter log = (.ok assessment, after))
    (same : (order assessment.summaries).Perm assessment.summaries)
    (otherSame : (other assessment.summaries).Perm assessment.summaries)
    : assessIn id config portfolio = config.assess portfolio
      ∧ (∀ reordered final,
          (assessIn other config portfolio).runAfter log = (.ok reordered, final)
          → final = after
            ∧ reordered.withSumsOf assessment = assessment
            ∧ (SummaryCache.EveryColumn Money.SumExactly (order assessment.summaries)
              → SummaryCache.EveryColumn Money.SumExactly (other assessment.summaries)
              → ∀ isDemandLoan,
                  (reordered.monthlyOutstanding isDemandLoan).map Money.toRat
                    = (assessment.monthlyOutstanding isDemandLoan).map Money.toRat
                  ∧ (reordered.monthlyRepayments isDemandLoan).map Money.toRat
                    = (assessment.monthlyRepayments isDemandLoan).map Money.toRat))
      ∧ (SummaryCache.EveryColumn Money.SumSteadily (order assessment.summaries)
        → SummaryCache.EveryColumn Money.SumSteadily (other assessment.summaries)
        → (assessIn other config portfolio).runAfter log = (.ok assessment, after)
          ∧ (reportTextIn other config portfolio).runAfter log
            = (reportTextIn order config portfolio).runAfter log) := by
  obtain ⟨period, progress, sumsUp, lengths⟩ := exists_progress_of_assessIn run
  have concluded := (Prod.mk.inj ((sumsUp order).symm.trans run)).1
  have listed := (concludes_of_concludeIn concluded).summaries
  rw [listed] at same otherSame ⊢
  refine ⟨rfl, ?_, ?_⟩
  · intro reordered final otherRun
    obtain ⟨otherConcluded, requests⟩ := Prod.mk.inj ((sumsUp other).symm.trans otherRun)
    refine ⟨requests.symm,
      withSumsOf_of_concludeIn concluded otherConcluded, ?_⟩
    intro exactly reorderedExactly
    exact toRat_of_concludeIn lengths same otherSame exactly reorderedExactly concluded
      otherConcluded
  · intro steadily reorderedSteadily
    have otherRun : (assessIn other config portfolio).runAfter log = (.ok assessment, after) := by
      rw [sumsUp other, concludeIn_of_steadily lengths same otherSame steadily reorderedSteadily
        concluded]
    refine ⟨otherRun, ?_⟩
    simp only [reportTextIn, reportIn, Reading.runAfter_bind, run, otherRun]

theorem chars_reportTextIn
    : ((reportTextIn order config portfolio).runAfter log).1.toOption.map String.toList
      = ((reportIn order config portfolio).runAfter log).1.toOption.map fun report =>
          (report.toJson.layout 0).flatMap Json.LayoutPart.chars := by
  simp only [reportTextIn, Reading.runAfter_bind]
  rcases (reportIn order config portfolio).runAfter log with ⟨fault | report, after⟩
  · rfl
  · exact congrArg some String.toList_ofList

end ChargeConfig

namespace Sample

/-- The loan and another one of the same product. -/
def pair : Portfolio :=
  { portfolio with
    loans := [loan, { loan with id := 8, principalOutstanding := .ofMajor 30 }] }

/-- Three term loans without transactions, the last two of which cancel each other out. -/
def cancelling : Portfolio :=
  { portfolio with
    loans :=
      [{ loan with id := 1, product := 2, totalOutstanding := .ofMajor 1000 },
        { loan with
          id := 2
          product := 2
          totalOutstanding := ⟨⟨false, 10, 1, by decide, by decide⟩⟩ },
        { loan with
          id := 3
          product := 2
          totalOutstanding := ⟨⟨true, 10, 1, by decide, by decide⟩⟩ }] }

end Sample

namespace ChargeConfig

/-- Both loans of the sample are demand loans, whose sums are the same from either end. -/
theorem assessIn_orders_sample
    : ∃ assessment after,
        (assessIn id Sample.collecting Sample.pair).runAfter [] = (.ok assessment, after)
        ∧ assessment.demandLoanCount = 2
        ∧ SummaryCache.EveryColumn Money.SumSteadily assessment.summaries
        ∧ SummaryCache.EveryColumn Money.SumSteadily assessment.summaries.reverse
        ∧ (assessIn List.reverse Sample.collecting Sample.pair).runAfter []
          = (.ok assessment, after)
        ∧ (reportTextIn List.reverse Sample.collecting Sample.pair).runAfter []
          = (reportTextIn id Sample.collecting Sample.pair).runAfter [] := by
  have evaluated
      : ((assessIn id Sample.collecting Sample.pair).runAfter []).1.toOption.any
          (fun assessment =>
            assessment.demandLoanCount = 2
            ∧ (∀ series ∈ assessment.summaries,
                ∀ m ∈ series.outstanding ++ series.repayments,
                  m.Settled ∧ 0 ≤ m.toRat ∧ (m.isZero = true → m = .zero))
            ∧ (assessment.summaries.map fun series => magnitude series.outstanding).sum
              ≤ Money.exactLimit
            ∧ (assessment.summaries.map fun series => magnitude series.repayments).sum
              ≤ Money.exactLimit)
        = true := by
    decide +kernel
  rcases run : (assessIn id Sample.collecting Sample.pair).runAfter []
    with ⟨fault | assessment, after⟩
  · rw [run] at evaluated
    cases evaluated
  · simp only [run, Except.toOption, Option.any_some, decide_eq_true_eq] at evaluated
    obtain ⟨count, each, outstanding, repayments⟩ := evaluated
    have reversed := assessment.summaries.reverse_perm
    have steadily := SummaryCache.steadily_of_nonneg (.refl _) each outstanding repayments
    have reversedSteadily := SummaryCache.steadily_of_nonneg reversed each outstanding repayments
    obtain ⟨sameRun, sameText⟩ :=
      (assessIn_orders run (.refl _) reversed).2.2 steadily reversedSteadily
    exact ⟨assessment, after, rfl, count, steadily, reversedSteadily, sameRun, sameText⟩

/-- The text does depend on the order: a sum that comes back to zero on the way drops its places, so
that three loans report 1000.0 in the one order and 1000 in the other.
-/
theorem not_forall_orders_same_text
    : ¬ ∀ (order other : List BalanceSeries → List BalanceSeries) (config : ChargeConfig)
          (portfolio : Portfolio) (assessment : Assessment) (log after : FetchLog),
          portfolio.source.Memoryless
          → (assessIn order config portfolio).runAfter log = (.ok assessment, after)
          → (order assessment.summaries).Perm assessment.summaries
          → (other assessment.summaries).Perm assessment.summaries
          → (reportTextIn other config portfolio).runAfter log
            = (reportTextIn order config portfolio).runAfter log := by
  intro always
  have different
      : ((reportIn List.reverse Sample.collecting Sample.cancelling).runAfter []).1.toOption.map
            (fun report => (report.toJson.layout 0).flatMap Json.LayoutPart.chars)
        ≠ ((reportIn id Sample.collecting Sample.cancelling).runAfter []).1.toOption.map
            (fun report => (report.toJson.layout 0).flatMap Json.LayoutPart.chars) := by
    decide +kernel
  have result
      : ((assessIn id Sample.collecting Sample.cancelling).runAfter []).1.toOption.isSome
        = true := by
    decide +kernel
  rcases run : (assessIn id Sample.collecting Sample.cancelling).runAfter []
    with ⟨fault | assessment, after⟩
  · rw [run] at result
    cases result
  · have same := always id List.reverse _ _ assessment [] after Sample.ledger.memoryless_source run
      (.refl _) assessment.summaries.reverse_perm
    rw [← chars_reportTextIn, ← chars_reportTextIn, same] at different
    exact different rfl

end ChargeConfig

end ChargeBasis

import ChargeBasis.Proofs.Assessment.Operations
import ChargeBasis.Proofs.Assessment.Totals
import ChargeBasis.Proofs.Summary.SafeRange

/-!
The safe range of a run. If 372 times all amounts of the input together are in range, once for every
day of twelve months, a run and its report make only exact operations and never overflow, for every
configuration and in whatever order the source reports and the series are visited.
-/

namespace ChargeBasis

open Operation

-----------------------------------------------------------------------------------------
-- Sums by month
-----------------------------------------------------------------------------------------

namespace SummaryCache

/-- Amounts are added to totals without rounding if the sum of every month is in range. -/
theorem exact_addMonthlyOperations {totals amounts : List Money}
    (totalPlaces : ∀ m ∈ totals, m.Settled) (places : ∀ m ∈ amounts, m.Settled)
    (range : ∀ month, Money.InRange (valueIn totals month + valueIn amounts month))
    : ∀ operation ∈ addMonthlyOperations totals amounts, operation.Exact := by
  induction totals generalizing amounts with
  | nil => nofun
  | cons total totals ih =>
      cases amounts with
      | nil => nofun
      | cons amount amounts =>
          obtain ⟨totalSettled, totalsSettled⟩ := List.forall_mem_cons.mp totalPlaces
          obtain ⟨amountSettled, amountsSettled⟩ := List.forall_mem_cons.mp places
          refine exact_making (exact_addition totalSettled amountSettled (range 0)) fun _ _ => ?_
          exact ih totalsSettled amountsSettled fun month => range (month + 1)

/-- Series are summed month by month without rounding if every sum on the way is in range: each
series is added to the exact sums of those before it.
-/
theorem exact_aggregateOperations {values : BalanceSeries → List Money} {months : Nat}
    {summaries : List BalanceSeries}
    (lengths : ∀ series ∈ summaries, (values series).length = months)
    (places : ∀ series ∈ summaries, ∀ m ∈ values series, m.Settled)
    (range
      : ∀ month, Money.PartialSumsInRange (summaries.map fun s => valueIn (values s) month))
    : ∀ operation ∈ aggregateOperations months values summaries, operation.Exact := by
  apply exact_ofFold
  intro front series back totals split walked
  have leading : front ++ [series] <+: summaries := ⟨back, by simp [split]⟩
  have before : ∀ s ∈ front, s ∈ summaries := fun s member => by simp [split, member]
  have member : series ∈ summaries := by simp [split]
  obtain ⟨_, summed, length, settled, sums⟩ :=
    @aggregate_exact values months front (fun s member => lengths s (before s member))
      (fun s member => places s (before s member))
      fun month =>
        (range month).of_leading (((List.prefix_append front [series]).trans leading).map _)
  cases summed.symm.trans walked
  rw [addSeriesOperations, if_pos ((lengths series member).trans length.symm)]
  refine exact_addMonthlyOperations settled (places series member) fun month => ?_
  have next := range month _ (leading.map fun s => valueIn (values s) month)
  rwa [List.map_append, List.sum_append, List.map_singleton, List.sum_singleton, ← sums] at next

/-- The sums by month of a category take exact operations in whatever order the series are visited,
and so do their totals.
-/
theorem exact_category {cache : SummaryCache} {order : List BalanceSeries → List BalanceSeries}
    (visits : (order cache.summaries).Perm cache.summaries) (isDemandLoan : Bool)
    {values : BalanceSeries → List Money}
    (lengths : ∀ s ∈ cache.summaries, (values s).length = cache.months)
    (settled : ∀ s ∈ cache.summaries, ∀ m ∈ values s, m.Settled)
    (bound
      : (cache.summaries.map fun s => magnitude (values s)).sum ≤ Money.exactLimit)
    : (∀ operation
          ∈ aggregateOperations cache.months values
              ((cache.visitedIn order).ofCategory isDemandLoan),
        operation.Exact)
      ∧ ∀ sums,
          aggregate cache.months values ((cache.visitedIn order).ofCategory isDemandLoan)
            = .ok sums
          → ∀ operation ∈ Money.additions sums, operation.Exact := by
  have part : ((cache.visitedIn order).ofCategory isDemandLoan).Sublist (order cache.summaries) :=
    List.filter_sublist
  have partBound
      : (((cache.visitedIn order).ofCategory isDemandLoan).map fun s => magnitude (values s)).sum
        ≤ Money.exactLimit := by
    rw [← (visits.map _).sum_eq] at bound
    refine ((part.map _).sum_le_sum ?_).trans bound
    intro amount member
    obtain ⟨s, _, rfl⟩ := List.mem_map.mp member
    exact magnitude_nonneg _
  have partLengths := fun s member => lengths s (visits.subset (part.subset member))
  have partPlaces := fun s member => settled s (visits.subset (part.subset member))
  refine ⟨exact_aggregateOperations partLengths partPlaces
    (partialSumsInRange_byMonth partBound), ?_⟩
  intro sums formed
  obtain ⟨length, places, byMonth, _⟩ :=
    exact_of_aggregate formed partLengths partPlaces (partialSumsInRange_byMonth partBound)
  exact Money.exact_additions places (partialSumsInRange_of_magnitude
    ((magnitude_sums_le partLengths length byMonth).trans partBound))

end SummaryCache

-----------------------------------------------------------------------------------------
-- The input
-----------------------------------------------------------------------------------------

/-- All amounts of a loan and its history together, by their magnitudes. -/
def Loan.exposure (loan : Loan) (history : List LoanTransaction) : ℚ :=
  |loan.principalOutstanding.toRat| + |loan.totalOutstanding.toRat|
    + turnover (·.amount) history + turnover (·.principalPortion) history

theorem Loan.exposure_nonneg (loan : Loan) (history : List LoanTransaction)
    : 0 ≤ loan.exposure history := by
  have principal := abs_nonneg loan.principalOutstanding.toRat
  have total := abs_nonneg loan.totalOutstanding.toRat
  have amounts := turnover_nonneg (·.amount) history
  have portions := turnover_nonneg (·.principalPortion) history
  unfold exposure
  linarith

theorem Loan.totalOutstanding_le_exposure (loan : Loan) (history : List LoanTransaction)
    : |loan.totalOutstanding.toRat| ≤ loan.exposure history := by
  have principal := abs_nonneg loan.principalOutstanding.toRat
  have amounts := turnover_nonneg (·.amount) history
  have portions := turnover_nonneg (·.principalPortion) history
  unfold exposure
  linarith

/-- The amounts that a mode works with are among those of the loan. -/
theorem Loan.mode_le_exposure (loan : Loan) (history : List LoanTransaction) (mode : SummaryMode)
    : |(mode.closingBalance loan).toRat| + turnover mode.amount history
      ≤ loan.exposure history := by
  have principal := abs_nonneg loan.principalOutstanding.toRat
  have total := abs_nonneg loan.totalOutstanding.toRat
  have amounts := turnover_nonneg (·.amount) history
  have portions := turnover_nonneg (·.principalPortion) history
  unfold exposure
  cases mode with
  | monthly =>
      change |loan.totalOutstanding.toRat| + turnover (·.amount) history ≤ _
      linarith
  | daily =>
      change |loan.principalOutstanding.toRat| + turnover (·.principalPortion) history ≤ _
      linarith

/-- The source reports the history of every loan of the input, no amount has more places than are
kept, and 372 times all amounts together, each loan counted as often as it is listed, are in range.
-/
structure Portfolio.InSafeRange (portfolio : Portfolio)
    (history : LoanId → List LoanTransaction)
    : Prop where
  reports : ∀ loan ∈ portfolio.loans, portfolio.source.Reports loan.id (history loan.id)
  balances
    : ∀ loan ∈ portfolio.loans,
        loan.principalOutstanding.Settled ∧ loan.totalOutstanding.Settled
  transactions
    : ∀ loan ∈ portfolio.loans,
        ∀ t ∈ history loan.id, t.amount.Settled ∧ t.principalPortion.Settled
  range
    : 372 * (portfolio.loans.map fun loan => loan.exposure (history loan.id)).sum
      ≤ Money.exactLimit

section SafeRange

variable {config : ChargeConfig} {portfolio : Portfolio} {period : ChargePeriod}
  {history : LoanId → List LoanTransaction} {log between after : FetchLog}
  {loans : List Loan} {verdicts : List Verdict} {progress : Progress} {loan : Loan}
  {order : List BalanceSeries → List BalanceSeries}

/-- Some of the loans of the input are in the same range. -/
theorem Portfolio.InSafeRange.of_sublist (safe : portfolio.InSafeRange history)
    (within : loans.Sublist portfolio.loans)
    : 372 * (loans.map fun loan => loan.exposure (history loan.id)).sum ≤ Money.exactLimit := by
  have part := (within.map fun loan => loan.exposure (history loan.id)).sum_le_sum (by
    intro amount member
    obtain ⟨loan, _, rfl⟩ := List.mem_map.mp member
    exact loan.exposure_nonneg _)
  have whole := safe.range
  linarith

theorem sum_exposure_nonneg (history : LoanId → List LoanTransaction) (loans : List Loan)
    : 0 ≤ (loans.map fun loan => loan.exposure (history loan.id)).sum := by
  apply List.sum_nonneg
  intro amount member
  obtain ⟨loan, _, rfl⟩ := List.mem_map.mp member
  exact loan.exposure_nonneg _

-----------------------------------------------------------------------------------------
-- Loans
-----------------------------------------------------------------------------------------

/-- The series of a loan is built by exact operations, and neither its balances nor its repayments
add up to more than 372 times the amounts of the loan.
-/
theorem Portfolio.InSafeRange.build (safe : portfolio.InSafeRange history)
    (member : loan ∈ portfolio.loans) (config : ChargeConfig) (period : ChargePeriod)
    (log : FetchLog)
    : (∀ operation ∈ config.buildOperations portfolio period loan log, operation.Exact)
      ∧ ∀ series after,
          (config.buildAlone portfolio period loan).runAfter log = (.ok series, after)
          → magnitude series.outstanding ≤ 372 * loan.exposure (history loan.id)
            ∧ magnitude series.repayments ≤ 372 * loan.exposure (history loan.id) := by
  have nonneg := loan.exposure_nonneg (history loan.id)
  have alone := safe.of_sublist (List.singleton_sublist.mpr member)
  rw [List.map_singleton, List.sum_singleton] at alone
  unfold ChargeConfig.buildOperations ChargeConfig.buildAlone
  rcases findProduct? portfolio.products loan.product with _ | product
  · refine ⟨nofun, ?_⟩
    intro series after build
    cases build
  · obtain ⟨principal, total⟩ := safe.balances loan member
    refine SummaryBuilder.operations_safe product (safe.reports loan member) ?_ ?_
      (loan.mode_le_exposure (history loan.id) _) (by linarith)
    · cases config.strategy.modeFor product.category with
      | monthly => exact total
      | daily => exact principal
    · intro t listed
      obtain ⟨amount, portion⟩ := safe.transactions loan member t listed
      cases config.strategy.modeFor product.category with
      | monthly => exact amount
      | daily => exact portion

/-- The summarised loans are some of those taken up. -/
theorem Progress.Records.built_sublist
    (records : progress.Records config portfolio period log loans verdicts after)
    : ((Verdict.built verdicts).map (·.1)).Sublist loans := by
  rw [records.built_loans]
  exact List.filter_sublist.trans (firstOccurrences_sublist loans)

/-- What is recorded for a summarised loan takes exact operations: its balance is added to the sum
of those before it, which belong to other loans of the input.
-/
theorem Progress.Records.exact_recordOperations
    (records : progress.Records config portfolio period log loans verdicts between)
    (safe : portfolio.InSafeRange history) (within : (loans ++ [loan]).Sublist portfolio.loans)
    {series : BalanceSeries}
    (build : (config.buildAlone portfolio period loan).runAfter between = (.ok series, after))
    : ∀ operation ∈ ChargeConfig.recordOperations progress loan series, operation.Exact := by
  have member : loan ∈ portfolio.loans := within.subset (by simp)
  obtain ⟨principal, total⟩ := safe.balances loan member
  obtain ⟨outstandingPlaces, repaymentPlaces⟩ :=
    ChargeConfig.settled_of_buildAlone principal total build
  obtain ⟨outstandingBound, repaymentBound⟩ :=
    (safe.build member config period between).2 series after build
  have alone := safe.of_sublist (List.singleton_sublist.mpr member)
  rw [List.map_singleton, List.sum_singleton] at alone
  refine List.forall_mem_append.mpr ⟨Money.exact_additions outstandingPlaces
    (partialSumsInRange_of_magnitude (outstandingBound.trans alone)), ?_⟩
  refine exact_following fun _ _ => List.forall_mem_append.mpr ⟨Money.exact_additions
    repaymentPlaces (partialSumsInRange_of_magnitude (repaymentBound.trans alone)), ?_⟩
  refine exact_following fun _ _ => List.forall_mem_singleton.mpr ?_
  -- the addition is the last one of a sum over loans of the input
  have part : ((Verdict.built verdicts).map (·.1) ++ [loan]).Sublist portfolio.loans :=
    (records.built_sublist.append (.refl [loan])).trans within
  have balances
      : magnitude (((Verdict.built verdicts).map (·.1) ++ [loan]).map (·.totalOutstanding))
        ≤ Money.exactLimit := by
    have nonneg := sum_exposure_nonneg history ((Verdict.built verdicts).map (·.1) ++ [loan])
    have bound := safe.of_sublist part
    rw [magnitude, List.map_map]
    refine (List.sum_le_sum fun other _ =>
      other.totalOutstanding_le_exposure (history other.id)).trans ?_
    linarith
  refine Money.exact_additions ?_ (partialSumsInRange_of_magnitude balances) _ ?_
  · intro m listed
    obtain ⟨other, kept, rfl⟩ := List.mem_map.mp listed
    exact (safe.balances other (part.subset kept)).2
  · rw [List.map_append, List.map_map]
    exact Money.mem_additions records.total

/-- A further loan takes exact operations. -/
theorem Progress.Records.exact_loanOperations
    (records : progress.Records config portfolio period log loans verdicts between)
    (safe : portfolio.InSafeRange history) (within : (loans ++ [loan]).Sublist portfolio.loans)
    : ∀ operation ∈ config.loanOperations portfolio period progress loan between,
        operation.Exact := by
  unfold ChargeConfig.loanOperations
  split
  · nofun
  · have member : loan ∈ portfolio.loans := within.subset (by simp)
    refine List.forall_mem_append.mpr ⟨(safe.build member config period between).1, ?_⟩
    refine exact_following fun series value => ?_
    rcases built : (config.buildAlone portfolio period loan).runAfter between with ⟨outcome, final⟩
    rw [built] at value
    cases value
    exact records.exact_recordOperations safe within built

/-- A walk through the rest of the loans takes exact operations, by induction over them. -/
theorem Progress.Records.exact_loansOperations
    (records : progress.Records config portfolio period log loans verdicts between)
    (safe : portfolio.InSafeRange history) {further : List Loan}
    (split : loans ++ further = portfolio.loans)
    : ∀ operation ∈ config.loansOperations portfolio period further progress between,
        operation.Exact := by
  induction further generalizing progress loans verdicts between with
  | nil => nofun
  | cons loan rest ih =>
      have leading : loans ++ [loan] <+: portfolio.loans := ⟨rest, by simp [← split]⟩
      refine List.forall_mem_append.mpr ⟨records.exact_loanOperations safe leading.sublist, ?_⟩
      refine exact_following fun next value => ?_
      rcases taken : (config.assessLoan portfolio period progress loan).runAfter between
        with ⟨outcome, final⟩
      rw [taken] at value
      cases value
      obtain ⟨more, nextRecords⟩ := records.step taken
      exact ih nextRecords (by rw [← split, List.append_assoc]; rfl)

-----------------------------------------------------------------------------------------
-- Conclusions and reports
-----------------------------------------------------------------------------------------

/-- The kept series together have no larger balances, and no larger repayments, than 372 times the
amounts of the input.
-/
theorem Progress.Records.magnitude_summaries_le
    (records : progress.Records config portfolio period log loans verdicts after)
    (safe : portfolio.InSafeRange history) (within : loans.Sublist portfolio.loans)
    {values : BalanceSeries → List Money}
    (bounded
      : ∀ loan ∈ portfolio.loans,
          ∀ log series after,
            (config.buildAlone portfolio period loan).runAfter log = (.ok series, after)
            → magnitude (values series) ≤ 372 * loan.exposure (history loan.id))
    : (progress.cache.summaries.map fun s => magnitude (values s)).sum ≤ Money.exactLimit := by
  have owners := records.built_sublist.trans within
  have bound := safe.of_sublist owners
  rw [List.map_map] at bound
  rw [(records.summaries.map _).sum_eq, List.map_map]
  refine (List.sum_le_sum (g := fun entry : Loan × BalanceSeries =>
    372 * entry.1.exposure (history entry.1.id)) ?_).trans ?_
  · intro entry member
    obtain ⟨_, _, _, _, build⟩ := records.builds.exists_build (Verdict.mem_built.mp member)
    exact bounded entry.1 (owners.subset (List.mem_map_of_mem member)) _ _ _ build
  · rwa [List.sum_map_mul_left]

/-- Once the loans are taken up, summing up takes exact operations in whatever order the series are
visited, and so does the report of the result.
-/
theorem Progress.Records.exact_conclusion
    (records : progress.Records config portfolio period log portfolio.loans verdicts after)
    (safe : portfolio.InSafeRange history)
    (visits : (order progress.cache.summaries).Perm progress.cache.summaries)
    : (∀ operation ∈ ChargeConfig.concludeOperations order portfolio progress, operation.Exact)
      ∧ ∀ assessment,
          ChargeConfig.concludeIn order portfolio period progress = .ok assessment
          → ∀ operation ∈ assessment.reportOperations, operation.Exact := by
  have places := records.settled safe.balances
  have outstanding (isDemandLoan : Bool) :=
    SummaryCache.exact_category visits isDemandLoan (fun s member => (records.lengths s member).1)
      (fun s member => (places s member).1)
      (records.magnitude_summaries_le safe (.refl _) fun loan member log series after build =>
        ((safe.build member config period log).2 series after build).1)
  have repayments (isDemandLoan : Bool) :=
    SummaryCache.exact_category visits isDemandLoan (fun s member => (records.lengths s member).2)
      (fun s member => (places s member).2)
      (records.magnitude_summaries_le safe (.refl _) fun loan member log series after build =>
        ((safe.build member config period log).2 series after build).2)
  constructor
  · refine List.forall_mem_append.mpr ⟨(outstanding true).1, ?_⟩
    refine exact_following fun demandSums demand => ?_
    refine List.forall_mem_append.mpr ⟨(outstanding false).1, ?_⟩
    refine exact_following fun termSums term => ?_
    refine List.forall_mem_append.mpr ⟨(repayments true).1, exact_following fun _ _ => ?_⟩
    refine List.forall_mem_append.mpr ⟨(repayments false).1, exact_following fun _ _ => ?_⟩
    refine List.forall_mem_append.mpr ⟨(outstanding true).2 demandSums demand, ?_⟩
    exact exact_following fun _ _ => (outstanding false).2 termSums term
  · intro assessment concluded
    have concludes := ChargeConfig.concludes_of_concludeIn concluded
    have category (isDemandLoan : Bool)
        : ∀ operation
            ∈ CategorySection.operations (assessment.monthlyOutstanding isDemandLoan)
                (assessment.monthlyRepayments isDemandLoan),
          operation.Exact :=
      List.forall_mem_append.mpr
        ⟨(outstanding isDemandLoan).2 _ (concludes.outstanding isDemandLoan),
          exact_following fun _ _ =>
            (repayments isDemandLoan).2 _ (concludes.repayments isDemandLoan)⟩
    exact List.forall_mem_append.mpr
      ⟨category true, exact_following fun _ _ => category false⟩

-----------------------------------------------------------------------------------------
-- Whole runs
-----------------------------------------------------------------------------------------

namespace ChargeConfig

/-- All operations of a run in the safe range are exact. -/
theorem exact_operationsIn (safe : portfolio.InSafeRange history)
    (visits : ∀ summaries, (order summaries).Perm summaries) (config : ChargeConfig)
    (log : FetchLog)
    : ∀ operation ∈ operationsIn order config portfolio log, operation.Exact := by
  refine exact_following fun period _ => ?_
  have started := config.records_begin portfolio period log
  refine List.forall_mem_append.mpr
    ⟨started.exact_loansOperations safe (List.nil_append _), ?_⟩
  refine exact_following fun progress value => ?_
  rcases walk
    : (portfolio.loans.foldlM (config.assessLoan portfolio period)
        (begin portfolio.run period)).runAfter log
    with ⟨outcome, after⟩
  rw [walk] at value
  cases value
  obtain ⟨_, records⟩ := started.foldlM walk
  exact (records.exact_conclusion safe (visits _)).1

/-- A run in the safe range does not overflow and neither does its report, whatever the
configuration and in whatever order the series are visited, and every addition and weighting of both
is exact. The range is 372 times all amounts of the input together, which have at most the places
kept; the source reports the histories of the loans in any order.
-/
theorem assessIn_in_safe_range (safe : portfolio.InSafeRange history)
    (visits : ∀ summaries, (order summaries).Perm summaries) (config : ChargeConfig)
    (log : FetchLog)
    : (∀ kind, ((assessIn order config portfolio).runAfter log).1 ≠ .error (.overflowed kind))
      ∧ (∀ operation ∈ operationsIn order config portfolio log, operation.Exact)
      ∧ ∀ assessment after,
          (assessIn order config portfolio).runAfter log = (.ok assessment, after)
          → (∃ report, assessment.report = .ok report)
            ∧ ∀ operation ∈ assessment.reportOperations, operation.Exact := by
  have exact := exact_operationsIn safe visits config log
  refine ⟨(explain_operationsIn order config portfolio log).ne_overflow exact, exact, ?_⟩
  intro assessment after run
  obtain ⟨_, _, _, _, records, concluded⟩ := exists_records run
  have reporting := (records.exact_conclusion safe (visits _)).2 assessment concluded
  refine ⟨?_, reporting⟩
  rcases made : assessment.report with kind | report
  · exact absurd made (assessment.explain_reportOperations.ne_overflow reporting kind)
  · exact ⟨report, rfl⟩

end ChargeConfig

end SafeRange

namespace Sample

/-- The loans of the portfolio that can be read, one of them without a known product. -/
def readable : Portfolio :=
  { portfolio with loans := portfolio.loans.filter fun loan => loan.id ≠ 9 }

theorem readable_inSafeRange
    : readable.InSafeRange ledger.transactionsOf where
  reports := by
    have available : ∀ loan ∈ readable.loans, ledger.unavailable.lookup loan.id = none := by
      decide +kernel
    exact fun loan member => Ledger.reports_source (available loan member)
  balances := by decide +kernel
  transactions := by decide +kernel
  range := by decide +kernel

end Sample

/-- A run over the loans that can be read makes 51 operations, without any rounding, when it visits
the series from the last one on.
-/
theorem ChargeConfig.assessIn_in_safe_range_sample
    : Sample.readable.InSafeRange Sample.ledger.transactionsOf
      ∧ (∀ summaries : List BalanceSeries, summaries.reverse.Perm summaries)
      ∧ (operationsIn List.reverse Sample.collecting Sample.readable []).length = 51
      ∧ (∀ operation ∈ operationsIn List.reverse Sample.collecting Sample.readable [],
          operation.Exact)
      ∧ ∃ assessment after,
          (assessIn List.reverse Sample.collecting Sample.readable).runAfter []
            = (.ok assessment, after)
          ∧ (∃ report, assessment.report = .ok report)
          ∧ ∀ operation ∈ assessment.reportOperations, operation.Exact := by
  obtain ⟨_, exact, reporting⟩ :=
    ChargeConfig.assessIn_in_safe_range Sample.readable_inSafeRange List.reverse_perm
      Sample.collecting []
  have count : (operationsIn List.reverse Sample.collecting Sample.readable []).length = 51 := by
    decide +kernel
  refine ⟨Sample.readable_inSafeRange, List.reverse_perm, count, exact, ?_⟩
  have evaluated
      : ((assessIn List.reverse Sample.collecting Sample.readable).runAfter
          []).1.toOption.isSome
        = true := by
    decide +kernel
  rcases run : (assessIn List.reverse Sample.collecting Sample.readable).runAfter []
    with ⟨fault | assessment, after⟩
  · rw [run] at evaluated
    cases evaluated
  · exact ⟨assessment, after, rfl, reporting assessment after run⟩

end ChargeBasis

import ChargeBasis.Report
import ChargeBasis.Proofs.Assessment.Steps
import ChargeBasis.Proofs.Summary.Operations

/-!
The operations of a run: those behind the series of each loan in turn, the totals of the series and
of the run, the sums by month and by category, and those of the report. They explain every overflow
of a run and of its report, for every configuration and every source.
-/

namespace ChargeBasis

open Operation

-----------------------------------------------------------------------------------------
-- Sums by month
-----------------------------------------------------------------------------------------

namespace SummaryCache

/-- The additions of monthly amounts to totals, up to the end of the shorter list. -/
def addMonthlyOperations : List Money → List Money → List Operation
  | total :: totals, amount :: amounts =>
    making (.addition total amount) fun _ => addMonthlyOperations totals amounts
  | _, _ => []

/-- An overflow among the months is that of one addition, by induction over the totals. -/
theorem explain_addMonthlyOperations (totals amounts : List Money)
    : Explain (addMonthlyOperations totals amounts) id (addMonthly totals amounts) := by
  induction totals generalizing amounts with
  | nil => exact explain_ok []
  | cons total totals ih =>
      cases amounts with
      | nil => exact explain_ok _
      | cons amount amounts => exact explain_making fun _ => (ih amounts).bind_of_ne nofun

/-- A series with a value for each month takes one addition a month, any other one none. -/
def addSeriesOperations (values : BalanceSeries → List Money) (totals : List Money)
    (series : BalanceSeries)
    : List Operation :=
  if (values series).length = totals.length then addMonthlyOperations totals (values series)
  else []

theorem explain_addSeriesOperations (values : BalanceSeries → List Money) (totals : List Money)
    (series : BalanceSeries)
    : Explain (addSeriesOperations values totals series) Fault.overflowed
        (addSeries values totals series) := by
  unfold addSeriesOperations addSeries
  split
  · exact (explain_addMonthlyOperations _ _).lift
  · exact explain_of_ne nofun

/-- The additions by which several series are summed month by month. -/
def aggregateOperations (months : Nat) (values : BalanceSeries → List Money)
    (summaries : List BalanceSeries)
    : List Operation :=
  ofFold (addSeries values) (addSeriesOperations values) (List.replicate months .zero) summaries

theorem explain_aggregateOperations (months : Nat) (values : BalanceSeries → List Money)
    (summaries : List BalanceSeries)
    : Explain (aggregateOperations months values summaries) Fault.overflowed
        (aggregate months values summaries) :=
  explain_ofFold fun totals series => explain_addSeriesOperations values totals series

def outstandingOperations (cache : SummaryCache) (isDemandLoan : Bool) : List Operation :=
  aggregateOperations cache.months (·.outstanding) (cache.ofCategory isDemandLoan)

def repaymentsOperations (cache : SummaryCache) (isDemandLoan : Bool) : List Operation :=
  aggregateOperations cache.months (·.repayments) (cache.ofCategory isDemandLoan)

end SummaryCache

-----------------------------------------------------------------------------------------
-- Loans
-----------------------------------------------------------------------------------------

namespace ChargeConfig

/-- The operations behind the series of a loan that is built on its own. -/
def buildOperations (config : ChargeConfig) (portfolio : Portfolio) (period : ChargePeriod)
    (loan : Loan) (log : FetchLog)
    : List Operation :=
  match findProduct? portfolio.products loan.product with
  | some product =>
    (config.builder period portfolio.source).operations loan
      (config.strategy.modeFor product.category) log
  | none => []

/-- A summarised loan takes the totals of its series and adds its balance to that of the run. -/
def recordOperations (progress : Progress) (loan : Loan) (series : BalanceSeries)
    : List Operation :=
  Money.additions series.outstanding
    ++ following series.totalOutstanding fun _ =>
      Money.additions series.repayments
        ++ following series.totalRepayments fun _ =>
          [.addition progress.totalOutstanding loan.totalOutstanding]

/-- Only a loan that is taken up for the first time takes operations. -/
def loanOperations (config : ChargeConfig) (portfolio : Portfolio) (period : ChargePeriod)
    (progress : Progress) (loan : Loan) (log : FetchLog)
    : List Operation :=
  if progress.cache.contains loan.id || progress.hasFailed loan.id then []
  else
    config.buildOperations portfolio period loan log
      ++ following ((config.buildAlone portfolio period loan).runAfter log).1
        (recordOperations progress loan)

/-- The operations of the loans one after another, up to the first that ends the run. -/
def loansOperations (config : ChargeConfig) (portfolio : Portfolio) (period : ChargePeriod)
    : List Loan → Progress → FetchLog → List Operation
  | [], _, _ => []
  | loan :: rest, progress, log =>
    config.loanOperations portfolio period progress loan log
      ++ following ((config.assessLoan portfolio period progress loan).runAfter log).1 fun next =>
        config.loansOperations portfolio period rest next
          ((config.assessLoan portfolio period progress loan).runAfter log).2

variable {config : ChargeConfig} {portfolio : Portfolio} {period : ChargePeriod}

theorem explain_buildOperations (loan : Loan) (log : FetchLog)
    : Explain (config.buildOperations portfolio period loan log) Fault.overflowed
        ((config.buildAlone portfolio period loan).runAfter log).1 := by
  unfold buildOperations buildAlone
  rcases findProduct? portfolio.products loan.product with _ | product
  · exact explain_of_ne nofun
  · exact SummaryBuilder.explain_operations _ loan product _ log

theorem explain_recordOperations (run : Uuid) (progress : Progress) (loan : Loan)
    (series : BalanceSeries) (cache : SummaryCache)
    : Explain (recordOperations progress loan series) id
        (recordSummary run progress loan series cache) := by
  refine (Money.explain_additions series.outstanding).bind fun _ _ => ?_
  refine (Money.explain_additions series.repayments).bind fun _ _ => ?_
  exact (explain_result
    (.addition progress.totalOutstanding loan.totalOutstanding)).bind_of_ne nofun

/-- The overflow of a loan that is taken up is that of its series or of what is recorded for it. -/
theorem explain_loanOperations (progress : Progress) (loan : Loan) (log : FetchLog)
    : Explain (config.loanOperations portfolio period progress loan log) Fault.overflowed
        ((config.assessLoan portfolio period progress loan).runAfter log).1 := by
  unfold loanOperations
  cases unknown : progress.cache.contains loan.id with
  | true =>
      rw [runAfter_assessLoan_of_contains unknown]
      exact explain_ok _
  | false =>
      cases fresh : progress.hasFailed loan.id with
      | true =>
          rw [runAfter_assessLoan_of_hasFailed unknown fresh]
          exact explain_ok _
      | false =>
          rw [runAfter_assessLoan_of_new unknown fresh]
          have building := @explain_buildOperations config portfolio period loan log
          rcases built : (config.buildAlone portfolio period loan).runAfter log
            with ⟨(error | kind) | series, after⟩ <;> rw [built] at building
          · cases config.failurePolicy <;> exact explain_of_ne nofun
          · exact building.of_error _
          · exact (explain_recordOperations _ progress loan series _).lift.after _

/-- The overflow of a walk through loans is that of one of them, by induction over the loans. -/
theorem explain_loansOperations (loans : List Loan) (progress : Progress) (log : FetchLog)
    : Explain (config.loansOperations portfolio period loans progress log) Fault.overflowed
        ((loans.foldlM (config.assessLoan portfolio period) progress).runAfter log).1 := by
  induction loans generalizing progress log with
  | nil => exact explain_ok progress
  | cons loan rest ih =>
      have taking := @explain_loanOperations config portfolio period progress loan log
      rw [List.foldlM_cons, Reading.runAfter_bind, loansOperations]
      rcases taken : (config.assessLoan portfolio period progress loan).runAfter log
        with ⟨fault | next, after⟩ <;> rw [taken] at taking
      · exact taking.of_error _
      · exact (ih next after).after _

-----------------------------------------------------------------------------------------
-- Whole runs
-----------------------------------------------------------------------------------------

/-- The operations by which a run is summed up: the sums by month of both categories, with the
series visited in some order, and the totals of their balances.
-/
def concludeOperations (order : List BalanceSeries → List BalanceSeries) (portfolio : Portfolio)
    (progress : Progress)
    : List Operation :=
  let cache := progress.cache
  let visited := cache.visitedIn order
  visited.outstandingOperations true
    ++ following (visited.monthlyOutstanding true) fun demandOutstanding =>
      visited.outstandingOperations false
        ++ following (visited.monthlyOutstanding false) fun termOutstanding =>
          visited.repaymentsOperations true
            ++ following (visited.monthlyRepayments true) fun _ =>
              visited.repaymentsOperations false
                ++ following (visited.monthlyRepayments false) fun _ =>
                  Money.additions demandOutstanding
                    ++ following
                      (aggregated portfolio.run true (cache.loanCount true) demandOutstanding)
                      fun _ => Money.additions termOutstanding

theorem explain_concludeOperations (order : List BalanceSeries → List BalanceSeries)
    (portfolio : Portfolio) (period : ChargePeriod) (progress : Progress)
    : Explain (concludeOperations order portfolio progress) Fault.overflowed
        (concludeIn order portfolio period progress) := by
  have total (isDemandLoan : Bool) (count : Nat) (outstanding : List Money)
      : Explain (Money.additions outstanding) id
          (aggregated portfolio.run isDemandLoan count outstanding) :=
    (Money.explain_additions outstanding).bind_of_ne nofun
  refine (SummaryCache.explain_aggregateOperations _ _ _).bind fun demandOutstanding _ => ?_
  refine (SummaryCache.explain_aggregateOperations _ _ _).bind fun termOutstanding _ => ?_
  refine (SummaryCache.explain_aggregateOperations _ _ _).bind fun _ _ => ?_
  refine (SummaryCache.explain_aggregateOperations _ _ _).bind fun _ _ => ?_
  refine (total true _ demandOutstanding).bind_lift fun _ _ => ?_
  refine (total false _ termOutstanding).lift.bind_of_ne fun _ _ => ?_
  nofun

/-- All operations that a run makes after some requests, with the series visited in some order. -/
def operationsIn (order : List BalanceSeries → List BalanceSeries) (config : ChargeConfig)
    (portfolio : Portfolio) (log : FetchLog)
    : List Operation :=
  following (config.period.resolve portfolio.today) fun period =>
    config.loansOperations portfolio period portfolio.loans (begin portfolio.run period) log
      ++ following
        ((portfolio.loans.foldlM (config.assessLoan portfolio period)
          (begin portfolio.run period)).runAfter log).1
        (concludeOperations order portfolio)

/-- All operations that a run makes after some requests, with the series visited by loan. -/
def operations (config : ChargeConfig) (portfolio : Portfolio) (log : FetchLog)
    : List Operation :=
  operationsIn id config portfolio log

/-- Whenever a run overflows, one of its operations does. -/
theorem explain_operationsIn (order : List BalanceSeries → List BalanceSeries)
    (config : ChargeConfig) (portfolio : Portfolio) (log : FetchLog)
    : Explain (operationsIn order config portfolio log) Fault.overflowed
        ((assessIn order config portfolio).runAfter log).1 := by
  rw [operationsIn]
  rcases resolved : config.period.resolve portfolio.today with error | period
  · rw [runAfter_assessIn_of_unresolved order resolved]
    exact explain_of_ne nofun
  · rw [runAfter_assessIn_of_resolved order resolved, following_ok]
    have walking :=
      @explain_loansOperations config portfolio period portfolio.loans (begin portfolio.run period)
        log
    rcases walk
      : (portfolio.loans.foldlM (config.assessLoan portfolio period)
          (begin portfolio.run period)).runAfter log
      with ⟨fault | progress, after⟩ <;> rw [walk] at walking
    · exact walking.of_error _
    · exact (explain_concludeOperations order portfolio period progress).after _

end ChargeConfig

-----------------------------------------------------------------------------------------
-- Reports
-----------------------------------------------------------------------------------------

/-- The section of a category takes the totals of its balances and of its repayments. -/
def CategorySection.operations (outstanding repayments : List Money) : List Operation :=
  Money.additions outstanding
    ++ following (Money.sum outstanding) fun _ => Money.additions repayments

theorem CategorySection.explain_operations (loanCount : Nat) (outstanding repayments : List Money)
    : Explain (operations outstanding repayments) id
        (CategorySection.of loanCount outstanding repayments) :=
  (Money.explain_additions outstanding).bind fun _ _ =>
    (Money.explain_additions repayments).bind_of_ne nofun

/-- All operations that the report of a run makes. -/
def Assessment.reportOperations (assessment : Assessment) : List Operation :=
  CategorySection.operations assessment.demandOutstanding assessment.demandRepayments
    ++ following
      (CategorySection.of assessment.demandLoanCount assessment.demandOutstanding
        assessment.demandRepayments)
      fun _ =>
        CategorySection.operations assessment.termOutstanding assessment.termRepayments

/-- Whenever a report overflows, one of its operations does. -/
theorem Assessment.explain_reportOperations (assessment : Assessment)
    : Explain assessment.reportOperations id assessment.report :=
  (CategorySection.explain_operations _ _ _).bind fun _ _ =>
    (CategorySection.explain_operations _ _ _).bind_of_ne nofun

end ChargeBasis

import ChargeBasis.Proofs.Assessment.Verdicts
import ChargeBasis.Proofs.Summary.Reconstruction
import ChargeBasis.Report

/-!
The end of a run. The result is read off the state that the last loan leaves: the kept series, their
sums by category and the failures. Only the sums depend on the order in which the series are
visited. Once the loans are taken up, only an overflow can keep a run from its result.
-/

namespace ChargeBasis

namespace Assessment

/-- The monthly balances of the demand loans, or of the others. -/
def monthlyOutstanding (assessment : Assessment) (isDemandLoan : Bool) : List Money :=
  if isDemandLoan then assessment.demandOutstanding else assessment.termOutstanding

def monthlyRepayments (assessment : Assessment) (isDemandLoan : Bool) : List Money :=
  if isDemandLoan then assessment.demandRepayments else assessment.termRepayments

def loanCount (assessment : Assessment) (isDemandLoan : Bool) : Nat :=
  if isDemandLoan then assessment.demandLoanCount else assessment.termLoanCount

def ofCategory (assessment : Assessment) (isDemandLoan : Bool) : List BalanceSeries :=
  assessment.summaries.filter fun series => series.isDemandLoan == isDemandLoan

/-- The result is read off the state of a run that has taken up all loans, with the series visited
in some order for the sums by category.
-/
structure Concludes (assessment : Assessment) (order : List BalanceSeries → List BalanceSeries)
    (portfolio : Portfolio) (period : ChargePeriod) (progress : Progress)
    : Prop where
  run : assessment.run = portfolio.run
  period : assessment.period = period
  outstanding
    : ∀ isDemandLoan,
        (progress.cache.visitedIn order).monthlyOutstanding isDemandLoan
        = .ok (assessment.monthlyOutstanding isDemandLoan)
  repayments
    : ∀ isDemandLoan,
        (progress.cache.visitedIn order).monthlyRepayments isDemandLoan
        = .ok (assessment.monthlyRepayments isDemandLoan)
  loanCount
    : ∀ isDemandLoan, assessment.loanCount isDemandLoan = progress.cache.loanCount isDemandLoan
  totalOutstanding : assessment.totalOutstanding = progress.totalOutstanding
  summaries : assessment.summaries = progress.cache.summaries
  failures : assessment.failures = progress.failures
  events
    : ∃ demand term,
        assessment.demandLoanTotal = .ok demand
        ∧ assessment.termLoanTotal = .ok term
        ∧ assessment.events
          = progress.trail.events
            ++ [.portfolioAggregated portfolio.run true assessment.demandLoanCount demand,
              .portfolioAggregated portfolio.run false assessment.termLoanCount term]

section Concludes

variable {assessment : Assessment} {order : List BalanceSeries → List BalanceSeries}
  {portfolio : Portfolio} {period : ChargePeriod} {progress : Progress}

theorem Concludes.totalLoans (concludes : assessment.Concludes order portfolio period progress)
    : assessment.totalLoans = progress.cache.summaries.length := by
  have demand := concludes.loanCount true
  have term := concludes.loanCount false
  simp only [Assessment.loanCount, if_true, Bool.false_eq_true, if_false] at demand term
  rw [Assessment.totalLoans, demand, term, SummaryCache.loanCount, SummaryCache.loanCount,
    SummaryCache.ofCategory, SummaryCache.ofCategory, ← List.countP_eq_length_filter,
    ← List.countP_eq_length_filter,
    List.length_eq_countP_add_countP fun series : BalanceSeries => series.isDemandLoan == true]
  congr 2
  funext series
  cases series.isDemandLoan <;> rfl

/-- The events on loans are those of the run before. -/
theorem Concludes.summaryTotals_eq
    (concludes : assessment.Concludes order portfolio period progress)
    : summaryTotals assessment.events = summaryTotals progress.trail.events := by
  obtain ⟨_, _, _, _, events⟩ := concludes.events
  rw [events]
  simp [summaryTotals, List.filterMap_append]

/-- The events on categories report the totals of the result, one for each category. -/
theorem Concludes.exists_categoryTotals
    (concludes : assessment.Concludes order portfolio period progress)
    (unfinished : categoryTotals progress.trail.events = [])
    : ∃ demand term,
        assessment.demandLoanTotal = .ok demand
        ∧ assessment.termLoanTotal = .ok term
        ∧ categoryTotals assessment.events = [(true, demand), (false, term)] := by
  obtain ⟨demand, term, demandTotal, termTotal, events⟩ := concludes.events
  refine ⟨demand, term, demandTotal, termTotal, ?_⟩
  rw [events, categoryTotals, List.filterMap_append, ← categoryTotals, unfinished]
  rfl

end Concludes

end Assessment

namespace ChargeConfig

variable {config : ChargeConfig} {portfolio : Portfolio} {period : ChargePeriod}
  {progress : Progress} {order : List BalanceSeries → List BalanceSeries} {assessment : Assessment}

/-- A result of summing up is read off the state of the run. -/
theorem concludes_of_concludeIn
    (h : concludeIn order portfolio period progress = .ok assessment)
    : assessment.Concludes order portfolio period progress := by
  simp only [concludeIn, aggregated, Except.bind_eq_ok_iff, Except.liftM_overflow,
    Except.mapError_eq_ok_iff] at h
  obtain ⟨demandOutstanding, demandSum, termOutstanding, termSum, demandRepayments, demandRepaid,
    termRepayments, termRepaid, _, ⟨demand, demandTotal, demandEvent⟩, _,
    ⟨term, termTotal, termEvent⟩, same⟩ := h
  cases demandEvent
  cases termEvent
  cases same
  exact {
    run := rfl
    period := rfl
    outstanding := fun isDemandLoan => by cases isDemandLoan <;> assumption
    repayments := fun isDemandLoan => by cases isDemandLoan <;> assumption
    loanCount := fun isDemandLoan => by cases isDemandLoan <;> rfl
    totalOutstanding := rfl
    summaries := rfl
    failures := rfl
    events := ⟨demand, term, demandTotal, termTotal, by simp [AuditTrail.emit]⟩
  }

/-- What can be read off the state of a run is what summing it up gives. -/
theorem concludeIn_of_concludes
    (concludes : assessment.Concludes order portfolio period progress)
    : concludeIn order portfolio period progress = .ok assessment := by
  obtain ⟨demand, term, demandTotal, termTotal, events⟩ := concludes.events
  have demandCount : assessment.demandLoanCount = progress.cache.loanCount true :=
    concludes.loanCount true
  have termCount : assessment.termLoanCount = progress.cache.loanCount false :=
    concludes.loanCount false
  have emitted
      : ((progress.trail.emit
            (.portfolioAggregated portfolio.run true (progress.cache.loanCount true) demand)).emit
            (.portfolioAggregated portfolio.run false (progress.cache.loanCount false) term)).events
        = assessment.events := by
    rw [events, demandCount, termCount]
    simp [AuditTrail.emit]
  simp only [concludeIn, aggregated, Except.bind_eq_ok_iff, Except.liftM_overflow,
    Except.mapError_eq_ok_iff]
  refine ⟨_, concludes.outstanding true, _, concludes.outstanding false, _,
    concludes.repayments true, _, concludes.repayments false, _, ⟨demand, demandTotal, rfl⟩, _,
    ⟨term, termTotal, rfl⟩, ?_⟩
  rw [emitted, ← demandCount, ← termCount, ← concludes.run, ← concludes.period,
    ← concludes.totalOutstanding, ← concludes.summaries, ← concludes.failures]
  rfl

/-- Summing up depends on the order through the series that are visited. -/
theorem concludeIn_congr {other : List BalanceSeries → List BalanceSeries}
    (same : other progress.cache.summaries = order progress.cache.summaries)
    : concludeIn other portfolio period progress = concludeIn order portfolio period progress := by
  simp only [concludeIn, SummaryCache.visitedIn, same]

section Lengths

variable
  (visits : (order progress.cache.summaries).Perm progress.cache.summaries)
  (lengths
    : ∀ series ∈ progress.cache.summaries,
        series.outstanding.length = progress.cache.months
        ∧ series.repayments.length = progress.cache.months)

include visits lengths

/-- The series that are visited have values for each month. -/
theorem lengths_visitedIn (isDemandLoan : Bool)
    : ∀ series ∈ (progress.cache.visitedIn order).ofCategory isDemandLoan,
        series.outstanding.length = progress.cache.months
        ∧ series.repayments.length = progress.cache.months :=
  fun series member => lengths series (visits.mem_iff.mp (List.mem_of_mem_filter member))

/-- Summing up series of the right length can only overflow. -/
theorem concludeIn_ne_failed (error : ChargeError)
    : concludeIn order portfolio period progress ≠ .error (.failed error) := by
  have whole := lengths_visitedIn visits lengths
  have outstanding (isDemandLoan : Bool)
      : (progress.cache.visitedIn order).monthlyOutstanding isDemandLoan
        ≠ .error (.failed error) :=
    SummaryCache.aggregate_ne_failed
      (fun series member => (whole isDemandLoan series member).1) error
  have repayments (isDemandLoan : Bool)
      : (progress.cache.visitedIn order).monthlyRepayments isDemandLoan
        ≠ .error (.failed error) :=
    SummaryCache.aggregate_ne_failed
      (fun series member => (whole isDemandLoan series member).2) error
  unfold concludeIn
  refine Except.bind_ne_error (outstanding true) fun _ => ?_
  refine Except.bind_ne_error (outstanding false) fun _ => ?_
  refine Except.bind_ne_error (repayments true) fun _ => ?_
  refine Except.bind_ne_error (repayments false) fun _ => ?_
  refine Except.bind_ne_error (Except.mapError_overflowed_ne_failed _ error) fun _ => ?_
  refine Except.bind_ne_error (Except.mapError_overflowed_ne_failed _ error) fun _ => ?_
  nofun

end Lengths

/-- When failures are collected, taking up loans can only overflow. -/
theorem foldlM_assessLoan_ne_failed (policy : config.failurePolicy = .collectErrors)
    (portfolio : Portfolio) (period : ChargePeriod) (loans : List Loan) (progress : Progress)
    (log : FetchLog) (error : ChargeError)
    : ((loans.foldlM (config.assessLoan portfolio period) progress).runAfter log).1
      ≠ .error (.failed error) := by
  intro failed
  obtain ⟨_, _, _, _, _, _, _, last⟩ := Reading.exists_fault_of_foldlM (Prod.ext failed rfl)
  have fails := (assessLoan_failed last).1
  rw [policy] at fails
  cases fails

end ChargeConfig

namespace Sample

/-- The loan among others: one that cannot be read, a term loan, one without a known product, and
repeated ones that ask for another product. Of the products with the first identifier the last one
counts.
-/
def portfolio : Portfolio where
  loans :=
    [loan, { loan with id := 9 }, { loan with id := 8, product := 2 },
      { loan with product := 2 }, { loan with id := 6, product := 3 },
      { loan with id := 9, product := 2 }]
  products := [⟨1, "Cash credit", "CC", .term⟩, ⟨2, "Term loan", "TL", .term⟩, product]
  source := ledger.source
  today := quarter.toDate
  run := .nil

/-- The charge for the current quarter, in spite of loans that cannot be summarised. -/
def collecting : ChargeConfig :=
  { ChargeConfig.quarterly with failurePolicy := .collectErrors }

end Sample

end ChargeBasis

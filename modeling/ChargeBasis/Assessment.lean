import ChargeBasis.AuditEvent
import ChargeBasis.ChargeConfig
import ChargeBasis.Summary.SummaryCache

/-!
Assessing a portfolio: the month by month balances and repayments of its demand loans and of its
term loans over the configured period. The series of a run are listed by loan, but nothing fixes the
order in which they are added up by category: a run is given one.
-/

namespace ChargeBasis

/-- A loan that could not be summarised. -/
structure LoanFailure where
  loan : LoanId
  error : ChargeError
  deriving DecidableEq

/-- What a charge is computed from: the loans, the products, the source of transactions, today's
date, and the identifier that marks the run. -/
structure Portfolio where
  loans : List Loan
  products : List LoanProduct
  source : TransactionSource
  today : Date
  run : Uuid

/-- The result of assessing a portfolio. -/
structure Assessment where
  run : Uuid
  period : ChargePeriod
  demandOutstanding : List Money
  termOutstanding : List Money
  demandRepayments : List Money
  termRepayments : List Money
  demandLoanCount : Nat
  termLoanCount : Nat
  totalOutstanding : Money
  summaries : List BalanceSeries
  failures : List LoanFailure
  events : List AuditEvent
  deriving DecidableEq

namespace Assessment

/-- The number of loans that contributed. -/
def totalLoans (assessment : Assessment) : Nat :=
  assessment.demandLoanCount + assessment.termLoanCount

/-- The sum of the balances of the demand loans. -/
def demandLoanTotal (assessment : Assessment) : Except Overflow Money :=
  Money.sum assessment.demandOutstanding

/-- The sum of the balances of the term loans. -/
def termLoanTotal (assessment : Assessment) : Except Overflow Money :=
  Money.sum assessment.termOutstanding

/-- Whether every loan contributed. -/
def isComplete (assessment : Assessment) : Bool :=
  assessment.failures.isEmpty

end Assessment

-------------------------------------------------------------------------------
-- One loan

/-- How far a run has come. -/
structure Progress where
  cache : SummaryCache
  failures : List LoanFailure
  totalOutstanding : Money
  trail : AuditTrail
  deriving DecidableEq

/-- Whether a loan has failed in the run. -/
def Progress.hasFailed (progress : Progress) (loan : LoanId) : Bool :=
  progress.failures.any fun failure => failure.loan == loan

/-- The product with an identifier; of several the last one counts. -/
def findProduct? (products : List LoanProduct) (id : ProductId) : Option LoanProduct :=
  products.reverse.find? fun product => product.id == id

namespace ChargeConfig

/-- The builder of summaries for a period. -/
def builder (config : ChargeConfig) (period : ChargePeriod) (source : TransactionSource)
    : SummaryBuilder :=
  ⟨period, source, config.averaging, config.averageScale⟩

/-- The series of a loan, in the mode that its product asks for. -/
def summariseLoan (config : ChargeConfig) (portfolio : Portfolio) (period : ChargePeriod)
    (loan : Loan) : Caching BalanceSeries :=
  match findProduct? portfolio.products loan.product with
  | some product =>
    SummaryCache.getOrCompute (config.builder period portfolio.source) loan product
      (config.strategy.modeFor product.category)
  | none => throw (.failed (.unknownProduct loan.id loan.product))

/-- A loan has been summarised. -/
def recordSummary (run : Uuid) (progress : Progress) (loan : Loan) (series : BalanceSeries)
    (cache : SummaryCache) : Except Overflow Progress := do
  let totalOutstanding ← series.totalOutstanding
  let totalRepayments ← series.totalRepayments
  let event := .loanSummarised run loan.id series.mode totalOutstanding totalRepayments
  return { progress with
    cache
    totalOutstanding := ← progress.totalOutstanding.add loan.totalOutstanding
    trail := progress.trail.emit event }

/-- A loan could not be summarised, and the run goes on. -/
def recordFailure (run : Uuid) (progress : Progress) (loan : Loan) (error : ChargeError)
    : Progress :=
  { progress with
    failures := progress.failures ++ [⟨loan.id, error⟩]
    trail := progress.trail.emit (.loanSummaryFailed run loan.id error.message) }

/-- Takes up the next loan of a run. A loan that was summarised before is only noted, one that
failed before is passed over. -/
def assessLoan (config : ChargeConfig) (portfolio : Portfolio) (period : ChargePeriod)
    (progress : Progress) (loan : Loan) : Reading Progress := do
  if progress.cache.contains loan.id then
    return { progress with
      trail := progress.trail.emit (.loanSummaryReused portfolio.run loan.id) }
  else if progress.hasFailed loan.id then return progress
  else
    match ← (config.summariseLoan portfolio period loan).attemptOn progress.cache with
    | (.ok series, cache) =>
      ((recordSummary portfolio.run progress loan series cache : Except Overflow Progress)
        : Except Fault Progress)
    | (.error error, cache) =>
      match config.failurePolicy with
      | .failFast => throw (.failed error)
      | .collectErrors => return recordFailure portfolio.run { progress with cache } loan error

-------------------------------------------------------------------------------
-- The whole portfolio

/-- The event for the sums over one category. -/
def aggregated (run : Uuid) (isDemandLoan : Bool) (loanCount : Nat) (outstanding : List Money)
    : Except Overflow AuditEvent := do
  return .portfolioAggregated run isDemandLoan loanCount (← Money.sum outstanding)

/-- Sums up a run that has taken up all loans. The sums visit the series in some order, in which
nothing else is listed. -/
def concludeIn (order : List BalanceSeries → List BalanceSeries) (portfolio : Portfolio)
    (period : ChargePeriod) (progress : Progress) : Except Fault Assessment := do
  let cache := progress.cache
  let visited := cache.visitedIn order
  let demandOutstanding ← visited.monthlyOutstanding true
  let termOutstanding ← visited.monthlyOutstanding false
  let demandRepayments ← visited.monthlyRepayments true
  let termRepayments ← visited.monthlyRepayments false
  let demand ← aggregated portfolio.run true (cache.loanCount true) demandOutstanding
  let term ← aggregated portfolio.run false (cache.loanCount false) termOutstanding
  return {
    run := portfolio.run
    period
    demandOutstanding
    termOutstanding
    demandRepayments
    termRepayments
    demandLoanCount := cache.loanCount true
    termLoanCount := cache.loanCount false
    totalOutstanding := progress.totalOutstanding
    summaries := cache.summaries
    failures := progress.failures
    events := ((progress.trail.emit demand).emit term).events }

/-- The state of a run before the first loan. -/
def begin (run : Uuid) (period : ChargePeriod) : Progress where
  cache := .forPeriod period
  failures := []
  totalOutstanding := .zero
  trail := AuditTrail.empty.emit
    (.periodResolved run period.period period.year period.fromDate period.toDate)

/-- Assesses a portfolio under a configuration, with the series visited in some order for the sums
by category. -/
def assessIn (order : List BalanceSeries → List BalanceSeries) (config : ChargeConfig)
    (portfolio : Portfolio) : Reading Assessment := do
  let period ← (liftM (config.period.resolve portfolio.today) : Except Fault ChargePeriod)
  let progress ← portfolio.loans.foldlM (config.assessLoan portfolio period)
    (begin portfolio.run period)
  concludeIn order portfolio period progress

/-- Assesses a portfolio under a configuration, with the series visited by loan. -/
def assess (config : ChargeConfig) (portfolio : Portfolio) : Reading Assessment :=
  assessIn id config portfolio

end ChargeConfig

end ChargeBasis

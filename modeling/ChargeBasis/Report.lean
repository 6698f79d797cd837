import ChargeBasis.Assessment

/-! The report of an assessment. -/

namespace ChargeBasis

/-- The period of a report. -/
structure PeriodSection where
  name : String
  year : Int32
  fromDate : Date
  toDate : Date
  months : UInt32
  deriving DecidableEq

/-- The sums over the loans of one category. -/
structure CategorySection where
  loanCount : Nat
  monthlyOutstanding : List Money
  monthlyRepayments : List Money
  totalOutstanding : Money
  totalRepayments : Money
  deriving DecidableEq

/-- A loan that could not be summarised, with the wording of its error. -/
structure FailureEntry where
  loan : LoanId
  reason : String
  deriving DecidableEq

/-- The report of an assessment. -/
structure Report where
  run : Uuid
  period : PeriodSection
  demandLoans : CategorySection
  termLoans : CategorySection
  totalOutstanding : Money
  loans : List BalanceSeries
  failures : List FailureEntry
  deriving DecidableEq

/-- The section for a category with these monthly sums. -/
def CategorySection.of (loanCount : Nat) (outstanding repayments : List Money)
    : Except Overflow CategorySection := do
  return {
    loanCount
    monthlyOutstanding := outstanding
    monthlyRepayments := repayments
    totalOutstanding := ← Money.sum outstanding
    totalRepayments := ← Money.sum repayments }

/-- The section for a period. -/
def PeriodSection.of (period : ChargePeriod) : PeriodSection where
  name := period.period.name
  year := period.year
  fromDate := period.fromDate
  toDate := period.toDate
  months := .ofNat period.months

/-- The report of an assessment. -/
def Assessment.report (assessment : Assessment) : Except Overflow Report := do
  return {
    run := assessment.run
    period := .of assessment.period
    demandLoans := ← CategorySection.of assessment.demandLoanCount
      assessment.demandOutstanding assessment.demandRepayments
    termLoans := ← CategorySection.of assessment.termLoanCount
      assessment.termOutstanding assessment.termRepayments
    totalOutstanding := assessment.totalOutstanding
    loans := assessment.summaries
    failures := assessment.failures.map fun failure => ⟨failure.loan, failure.error.message⟩ }

/-- The report of an assessment that visits the series in some order. -/
def ChargeConfig.reportIn (order : List BalanceSeries → List BalanceSeries)
    (config : ChargeConfig) (portfolio : Portfolio) : Reading Report := do
  let assessment ← assessIn order config portfolio
  (liftM assessment.report : Except Fault Report)

end ChargeBasis

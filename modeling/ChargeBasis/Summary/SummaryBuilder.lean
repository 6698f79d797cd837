import ChargeBasis.Period.ChargePeriod
import ChargeBasis.Summary.BalanceSeries
import ChargeBasis.Summary.DailyWeighing

/-! Building the balance series of a loan for one period. -/

namespace ChargeBasis

/-- What summaries are built from and how daily balances are reported. -/
structure SummaryBuilder where
  period : ChargePeriod
  source : TransactionSource
  averaging : AveragingPolicy := .weightedSum
  averageScale : UInt32 := 2

/-- The balance of today that the months of a mode are rebuilt from. -/
def SummaryMode.closingBalance : SummaryMode → Loan → Money
  | .monthly, loan => loan.totalOutstanding
  | .daily, loan => loan.principalOutstanding

namespace SummaryBuilder

/-- The rule by which a mode sums up the months of a loan. -/
def rule (builder : SummaryBuilder) (loan : Loan) : SummaryMode → MonthRule
  | .monthly => monthlyRule
  | .daily => dailyRule builder.averaging builder.averageScale.toNat loan.disbursementDate

/-- The figures of a loan for the months of the period, the latest month first. -/
def figures (builder : SummaryBuilder) (loan : Loan) (mode : SummaryMode)
    : Reading (List MonthFigures) :=
  summarise builder.source (builder.rule loan mode) loan builder.period.windows
    (mode.closingBalance loan)

/-- The series made of figures, one month of which there has to be for each of the period. -/
def series (builder : SummaryBuilder) (loan : Loan) (product : LoanProduct) (mode : SummaryMode)
    (figures : List MonthFigures) : Except ChargeError BalanceSeries := do
  let series ← BalanceSeries.ofBackward loan product.isDemandLoan mode
    (figures.map (·.outstanding)) (figures.map (·.repaid))
  if series.length = builder.period.months then return series
  else throw (.inconsistentSeriesLength loan.id builder.period.months series.length)

/-- The balance series of a loan. -/
def build (builder : SummaryBuilder) (loan : Loan) (product : LoanProduct) (mode : SummaryMode)
    : Reading BalanceSeries := do
  let figures ← builder.figures loan mode
  (builder.series loan product mode figures : Except ChargeError BalanceSeries)

end SummaryBuilder

end ChargeBasis

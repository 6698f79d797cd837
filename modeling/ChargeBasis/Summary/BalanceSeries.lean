import ChargeBasis.Error

/-! The monthly figures of one loan over a period, the oldest month first. -/

namespace ChargeBasis

/-- The outstanding balances and the repayments of a loan, month by month. -/
structure BalanceSeries where
  loan : LoanId
  isDemandLoan : Bool
  disbursementDate : Date
  mode : SummaryMode
  outstanding : List Money
  repayments : List Money
  deriving DecidableEq

namespace BalanceSeries

/-- The series of figures that are listed with the latest month first. There have to be as many
repayments as balances. -/
def ofBackward (loan : Loan) (isDemandLoan : Bool) (mode : SummaryMode)
    (outstanding repayments : List Money) : Except ChargeError BalanceSeries :=
  if outstanding.length = repayments.length then
    .ok
      { loan := loan.id
        isDemandLoan := isDemandLoan
        disbursementDate := loan.disbursementDate
        mode := mode
        outstanding := outstanding.reverse
        repayments := repayments.reverse }
  else .error (.inconsistentSeriesLength loan.id outstanding.length repayments.length)

/-- The number of months. -/
def length (series : BalanceSeries) : Nat :=
  series.outstanding.length

/-- Whether there are no months. -/
def isEmpty (series : BalanceSeries) : Bool :=
  series.outstanding.isEmpty

/-- The sum of the balances. -/
def totalOutstanding (series : BalanceSeries) : Except Overflow Money :=
  Money.sum series.outstanding

/-- The sum of the repayments. -/
def totalRepayments (series : BalanceSeries) : Except Overflow Money :=
  Money.sum series.repayments

end BalanceSeries

end ChargeBasis

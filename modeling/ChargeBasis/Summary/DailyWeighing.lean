import ChargeBasis.Summary.MonthRule

/-!
Balances weighted by days. The days of a month are walked backwards; on each day with a repayment
the balance held since that day is weighed, and the repayment is undone.
-/

namespace ChargeBasis

-------------------------------------------------------------------------------
-- Repayments by day

/-- Principal repaid on certain days, in ascending order of days. -/
abbrev DailyRepayments := List (Date × Money)

namespace DailyRepayments

/-- Adds an amount to what was repaid on a day. -/
def repay (day : Date) (amount : Money) : DailyRepayments → Except Overflow DailyRepayments
  | [] => return [(day, ← Money.zero.add amount)]
  | (d, total) :: rest =>
    if day = d then return (d, ← total.add amount) :: rest
    else if day < d then return (day, ← Money.zero.add amount) :: (d, total) :: rest
    else return (d, total) :: (← repay day amount rest)

/-- The principal that transactions repay, summed by day in the order of the list. -/
def ofTransactions (transactions : List LoanTransaction) : Except Overflow DailyRepayments :=
  (transactions.filter (·.isRepayment)).foldlM
    (fun (byDay : DailyRepayments) t => byDay.repay t.date t.principalPortion) []

/-- What is repaid on a day or later. -/
def onOrAfter (byDay : DailyRepayments) (day : Date) : DailyRepayments :=
  byDay.filter fun entry => day ≤ entry.1

/-- All that is repaid. -/
def total (byDay : DailyRepayments) : Except Overflow Money :=
  Money.sum (byDay.map Prod.snd)

end DailyRepayments

-------------------------------------------------------------------------------
-- Weighing

/-- The state of a walk back through days: the balance in effect before `dateMarker` and back to
the day under way, and the sum of balance times days for the days from the marker on. -/
structure WeighedBalance where
  runningBalance : Money
  dateMarker : Date
  weightedSum : Money
  deriving DecidableEq

namespace WeighedBalance

/-- The state before the last day of a window is weighed. -/
def start (closing : Money) (window : MonthWindow) : Except ChargeError WeighedBalance :=
  match window.lastDay.next? with
  | some day => .ok ⟨closing, day, .zero⟩
  | none => .error (.invalidDate (.noDayAfter window.lastDay))

/-- Weighs the balance from a day up to the marker and undoes a repayment made on that day. -/
def repaid (state : WeighedBalance) (day : Date) (amount : Money)
    : Except Overflow WeighedBalance := do
  let held ← state.runningBalance.weightedByDays (Date.daysBetween day state.dateMarker)
  let runningBalance ← state.runningBalance.add amount
  let weightedSum ← state.weightedSum.add held
  return ⟨runningBalance, day, weightedSum⟩

/-- Weighs the balance from a day up to the marker. -/
def close (state : WeighedBalance) (boundary : Date) : Except Overflow WeighedBalance := do
  let held ← state.runningBalance.weightedByDays (Date.daysBetween boundary state.dateMarker)
  let weightedSum ← state.weightedSum.add held
  return { state with dateMarker := boundary, weightedSum }

/-- Visits one day: only a repayment changes anything. -/
def visit (state : WeighedBalance) (byDay : DailyRepayments) (day : Date)
    : Except Overflow WeighedBalance :=
  match byDay.lookup day with
  | some amount => state.repaid day amount
  | none => .ok state

/-- Visits days one after another. -/
def visitAll (state : WeighedBalance) (byDay : DailyRepayments) (days : List Date)
    : Except Overflow WeighedBalance :=
  days.foldlM (fun state day => state.visit byDay day) state

end WeighedBalance

/-- The first day of a window on which a loan is running. -/
def MonthWindow.boundary (window : MonthWindow) (disbursement : Date) : Date :=
  max window.firstDay disbursement

/-- Weighs the days of a window from the last one back to the day of disbursement. -/
def weighWindow (window : MonthWindow) (disbursement : Date) (closing : Money)
    (byDay : DailyRepayments) : Except Fault WeighedBalance := do
  let boundary := window.boundary disbursement
  let start ← WeighedBalance.start closing window
  let walked ← start.visitAll byDay (window.daysDescending boundary).toList
  walked.close boundary

-------------------------------------------------------------------------------
-- The daily rule

/-- What the daily mode reports for a month. -/
inductive AveragingPolicy where
  | weightedSum
  | dailyAverage
  deriving DecidableEq, Repr

/-- The figure reported for a weighted sum: itself, or its quotient by the days of the month. -/
def AveragingPolicy.figure (policy : AveragingPolicy) (places : Nat) (window : MonthWindow)
    (weightedSum : Money) : Except ChargeError Money :=
  match policy with
  | .weightedSum => .ok weightedSum
  | .dailyAverage =>
    ((Decimal.divideThenMultiply (some weightedSum.amount)
        (some (.ofInt64 (.ofInt window.days))) none places).map .ofDecimal).mapError
      .calculationError

/-- The rule of the daily mode: the weighted balance of the month, and the principal that the
month's transactions repay on days on which the loan is running. -/
def dailyRule (policy : AveragingPolicy) (places : Nat) (disbursement : Date) : MonthRule :=
  fun window balance transactions => do
    let all ← DailyRepayments.ofTransactions transactions
    let byDay := all.onOrAfter (window.boundary disbursement)
    let repaid ← byDay.total
    let weighed ← weighWindow window disbursement balance byDay
    let figure ← policy.figure places window weighed.weightedSum
    return (⟨figure, repaid⟩, weighed.runningBalance)

end ChargeBasis

import ChargeBasis.Calendar.MonthWindow
import ChargeBasis.Source.Fetch

/-!
Rebuilding balances backwards. The balance of today is the balance at the end of the period; a
rule turns the balance at the end of a month and the month's transactions into the month's
figures and the balance at its beginning, which is the one at the end of the month before.
-/

namespace ChargeBasis

/-- What is reported for one month of a loan. -/
structure MonthFigures where
  outstanding : Money
  repaid : Money
  deriving DecidableEq

/-- The figures of a month in which a loan was not yet disbursed. -/
def MonthFigures.none : MonthFigures := ⟨.zero, .zero⟩

/-- A way to sum up one month: from its window, the balance at its end and its transactions to its
figures and the balance at its beginning. -/
abbrev MonthRule :=
  MonthWindow → Money → List LoanTransaction → Except Fault (MonthFigures × Money)

/-- Whether a loan is not yet running in a month: it is disbursed on the last day or later. -/
def Loan.startsAfter (loan : Loan) (window : MonthWindow) : Bool :=
  window.lastDay ≤ loan.disbursementDate

/-- The request for the transactions of a loan in a month. -/
def Loan.fetchIn (loan : Loan) (window : MonthWindow) : Fetch :=
  ⟨loan.id, window.firstDay, window.lastDay⟩

/-- The figures of a loan for a list of months, the latest month first, starting from the balance
at the end of the latest. Months before disbursement are skipped without reading anything. -/
def summarise (source : TransactionSource) (rule : MonthRule) (loan : Loan)
    : List MonthWindow → Money → Reading (List MonthFigures)
  | [], _ => return []
  | window :: earlier, balance =>
    if loan.startsAfter window then
      return .none :: (← summarise source rule loan earlier balance)
    else do
      let transactions ← source.fetch (loan.fetchIn window)
      let (figures, opening) ← rule window balance transactions
      return figures :: (← summarise source rule loan earlier opening)

/-- The rule of the monthly mode: the balance at the end of the month, and the full amounts of the
month's repayments. -/
def monthlyRule : MonthRule := fun _ balance transactions => do
  let repaid ← Money.sum ((transactions.filter (·.isRepayment)).map (·.amount))
  let opening ← balance.add repaid
  return (⟨balance, repaid⟩, opening)

end ChargeBasis

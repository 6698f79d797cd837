import ChargeBasis.Proofs.Summary.DailyBalances
import ChargeBasis.Proofs.Summary.MonthlyBalances

/-!
Both modes at once. A mode rebuilds the balances of one amount, from today's: the monthly mode the
full amount outstanding, the daily mode the principal. For a month it reports a value of these
balances and what is repaid of the amount.
-/

namespace ChargeBasis

namespace SummaryMode

/-- The amount of a transaction that a mode adds back. -/
def amount : SummaryMode → LoanTransaction → Money
  | monthly => (·.amount)
  | daily => (·.principalPortion)

/-- The balances that a mode rebuilds over a period that ends on a day. -/
def balances (mode : SummaryMode) (loan : Loan) (history : List LoanTransaction)
    (periodEnd : Date)
    : Int → ℚ :=
  balanceAt (mode.closingBalance loan) mode.amount history periodEnd

/-- The days of a month whose balances a mode adds up: its last day, or every day on which the loan
is running.
-/
noncomputable def daysCounted (mode : SummaryMode) (loan : Loan) (window : MonthWindow)
    : Finset Int :=
  match mode with
  | monthly => {window.lastDay.dayNumber}
  | daily =>
    (Finset.Icc window.firstDay.dayNumber window.lastDay.dayNumber).filter fun day =>
      loan.disbursementDate.dayNumber ≤ day

/-- The days of a month whose repayments a mode adds up: all of them, or those on which the loan is
running.
-/
def RepaysOn (mode : SummaryMode) (loan : Loan) (window : MonthWindow) (day : Date) : Prop :=
  match mode with
  | monthly => window.firstDay ≤ day ∧ day ≤ window.lastDay
  | daily => (window.firstDay ≤ day ∧ day ≤ window.lastDay) ∧ loan.disbursementDate ≤ day

instance (mode : SummaryMode) (loan : Loan) (window : MonthWindow)
    : DecidablePred (mode.RepaysOn loan window) :=
  match mode with
  | monthly => fun day =>
    inferInstanceAs (Decidable (window.firstDay ≤ day ∧ day ≤ window.lastDay))
  | daily => fun day =>
    inferInstanceAs
      (Decidable ((window.firstDay ≤ day ∧ day ≤ window.lastDay) ∧ loan.disbursementDate ≤ day))

theorem le_of_mem_daysCounted {mode : SummaryMode} {loan : Loan} {window : MonthWindow} {day : Int}
    (member : day ∈ mode.daysCounted loan window)
    : day ≤ window.lastDay.dayNumber := by
  cases mode with
  | monthly => exact (Finset.mem_singleton.mp member).le
  | daily => exact (Finset.mem_Icc.mp (Finset.mem_filter.mp member).1).2

/-- In the months after its disbursement a loan is running every day. -/
theorem repaidOn_of_disbursed (mode : SummaryMode) {loan : Loan} {window : MonthWindow}
    (disbursed : loan.disbursementDate < window.firstDay) (history : List LoanTransaction)
    : repaidOn mode.amount history (mode.RepaysOn loan window)
      = repaidOn mode.amount history fun day => window.firstDay ≤ day ∧ day ≤ window.lastDay := by
  apply repaidOn_congr
  intro t _ _
  cases mode with
  | monthly => exact Iff.rfl
  | daily =>
      have started : loan.disbursementDate.dayNumber < window.firstDay.dayNumber := disbursed
      change
        (window.firstDay.dayNumber ≤ t.date.dayNumber
            ∧ t.date.dayNumber ≤ window.lastDay.dayNumber)
          ∧ loan.disbursementDate.dayNumber ≤ t.date.dayNumber
        ↔ window.firstDay.dayNumber ≤ t.date.dayNumber
          ∧ t.date.dayNumber ≤ window.lastDay.dayNumber
      omega

/-- All values that a mode forms for a month are in range. -/
def InRange (mode : SummaryMode) (loan : Loan) (history : List LoanTransaction)
    (periodEnd : Date) (window : MonthWindow) (transactions : List LoanTransaction)
    : Prop :=
  match mode with
  | monthly =>
    MonthlyInRange (monthly.balances loan history periodEnd window.lastDay.dayNumber) transactions
  | daily =>
    DailyInRange window loan.disbursementDate (daily.balances loan history periodEnd) transactions

end SummaryMode

namespace SummaryBuilder

variable {builder : SummaryBuilder} {loan : Loan} {history : List LoanTransaction}
  {mode : SummaryMode} {log : FetchLog}

/-- A mode rebuilds every month of a period in which the loan is running, in the daily mode as long
as weighted sums are reported.
-/
theorem rule_rebuilds (averaging : mode = .daily → builder.averaging = .weightedSum)
    (places : ∀ t ∈ history, (mode.amount t).Settled) {window : MonthWindow}
    (member : window ∈ builder.period.windows) (running : loan.startsAfter window = false)
    {transactions : List LoanTransaction}
    (answer
      : transactions.Perm
          (history.filter fun t => window.firstDay ≤ t.date ∧ t.date ≤ window.lastDay))
    (range : mode.InRange loan history builder.period.toDate window transactions)
    : (builder.rule loan mode).Rebuilds loan
        (mode.balances loan history builder.period.toDate)
        (fun window =>
          ∑ day ∈ mode.daysCounted loan window,
            mode.balances loan history builder.period.toDate day)
        (fun window => repaidOn mode.amount history (mode.RepaysOn loan window))
        window transactions := by
  obtain ⟨whole, within⟩ := builder.period.monthsBackFrom_windows.forall_mem member
  cases mode with
  | monthly =>
      simp only [SummaryMode.daysCounted, Finset.sum_singleton]
      exact monthlyRule_rebuilds places whole within answer range
  | daily =>
      obtain ⟨follower, following⟩ := ChargePeriod.exists_next?_lastDay member
      rw [rule, averaging rfl]
      exact dailyRule_rebuilds places whole within running following answer range

/-- Both modes report, oldest month first, the sum of the balances of the days they count and what
is repaid on the days that they count for repayments, and zero before the loan is running.
-/
theorem build_in_mode (product : LoanProduct)
    (averaging : mode = .daily → builder.averaging = .weightedSum)
    (reports : builder.source.Reports loan.id history)
    (settled : (mode.closingBalance loan).Settled)
    (places : ∀ t ∈ history, (mode.amount t).Settled)
    (range
      : loan.EveryAnswer builder.source log builder.period.windows
          (mode.InRange loan history builder.period.toDate))
    : ∃ series,
        (builder.build loan product mode).runAfter log
          = (.ok series, log ++ loan.requestsIn builder.period.windows)
        ∧ series.outstanding.map (·.toRat)
          = loan.valuesIn
              (fun window =>
                ∑ day ∈ mode.daysCounted loan window,
                  mode.balances loan history builder.period.toDate day)
              builder.period.windows.reverse
        ∧ series.repayments.map (·.toRat)
          = loan.valuesIn (fun window => repaidOn mode.amount history (mode.RepaysOn loan window))
              builder.period.windows.reverse :=
  build_exact product mode reports settled balanceAt_end.symm
    (range.of_reports reports fun _ member running _ content inRange =>
      rule_rebuilds averaging places member running content inRange)

end SummaryBuilder

end ChargeBasis

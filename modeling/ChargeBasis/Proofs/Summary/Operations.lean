import ChargeBasis.Proofs.Money.Operations
import ChargeBasis.Proofs.Summary.Months

/-!
The operations behind a summary: the additions and weightings that the rules make for a month, and
those of all months of a loan. Each list follows the computation it belongs to and explains its
overflow, whatever the source answers.
-/

namespace ChargeBasis

open Operation

-----------------------------------------------------------------------------------------
-- The monthly rule
-----------------------------------------------------------------------------------------

/-- The monthly mode sums the repayments of a month and adds them back to the balance. -/
def monthlyOperations (balance : Money) (transactions : List LoanTransaction) : List Operation :=
  let amounts := (transactions.filter (·.isRepayment)).map (·.amount)
  Money.additions amounts
    ++ following (Money.sum amounts) fun repaid => [.addition balance repaid]

theorem explain_monthlyOperations (window : MonthWindow) (balance : Money)
    (transactions : List LoanTransaction)
    : Explain (monthlyOperations balance transactions) Fault.overflowed
        (monthlyRule window balance transactions) := by
  refine (Money.explain_additions _).bind_lift fun repaid _ => ?_
  exact (explain_result (.addition balance repaid)).lift.bind_of_ne nofun

-----------------------------------------------------------------------------------------
-- The daily rule
-----------------------------------------------------------------------------------------

namespace DailyRepayments

/-- What is listed for a day, the amount that a repayment on the day is added to. -/
def heldOn (day : Date) : DailyRepayments → Money
  | [] => .zero
  | (d, total) :: rest =>
    if day = d then total else if day < d then .zero else heldOn day rest

/-- Listing a repayment takes one addition, by induction over the list. -/
theorem explain_repay (day : Date) (amount : Money) (byDay : DailyRepayments)
    : Explain [.addition (byDay.heldOn day) amount] id (byDay.repay day amount) := by
  induction byDay with
  | nil => exact (explain_result (.addition .zero amount)).bind_of_ne nofun
  | cons entry rest ih =>
      obtain ⟨d, total⟩ := entry
      simp only [repay, heldOn]
      split
      · exact (explain_result (.addition total amount)).bind_of_ne nofun
      · split
        · exact (explain_result (.addition .zero amount)).bind_of_ne nofun
        · exact ih.bind_of_ne nofun

/-- The additions by which transactions are listed by day. -/
def listingOperations (transactions : List LoanTransaction) : List Operation :=
  ofFold (fun (byDay : DailyRepayments) t => byDay.repay t.date t.principalPortion)
    (fun byDay t => [.addition (byDay.heldOn t.date) t.principalPortion]) []
    (transactions.filter (·.isRepayment))

theorem explain_listingOperations (transactions : List LoanTransaction)
    : Explain (listingOperations transactions) id (ofTransactions transactions) :=
  explain_ofFold fun byDay t => explain_repay t.date t.principalPortion byDay

end DailyRepayments

namespace WeighedBalance

/-- Closing weighs the balance up to the marker and adds the product to the sum. -/
def closeOperations (state : WeighedBalance) (boundary : Date) : List Operation :=
  making (.weighting state.runningBalance (Date.daysBetween boundary state.dateMarker))
    fun held => [.addition state.weightedSum held]

/-- On the day of a repayment it is, in between, added back to the balance. -/
def repaidOperations (state : WeighedBalance) (day : Date) (amount : Money) : List Operation :=
  making (.weighting state.runningBalance (Date.daysBetween day state.dateMarker))
    fun held =>
      making (.addition state.runningBalance amount) fun _ =>
        [.addition state.weightedSum held]

def visitOperations (state : WeighedBalance) (byDay : DailyRepayments) (day : Date)
    : List Operation :=
  match byDay.lookup day with
  | some amount => state.repaidOperations day amount
  | none => []

theorem explain_closeOperations (state : WeighedBalance) (boundary : Date)
    : Explain (state.closeOperations boundary) id (state.close boundary) :=
  explain_making fun held => (explain_result (.addition state.weightedSum held)).bind_of_ne nofun

theorem explain_visitOperations (state : WeighedBalance) (byDay : DailyRepayments) (day : Date)
    : Explain (state.visitOperations byDay day) id (state.visit byDay day) := by
  unfold visitOperations visit
  rcases byDay.lookup day with _ | amount
  · exact explain_ok state
  · exact explain_making fun held => explain_making fun _ =>
      (explain_result (.addition state.weightedSum held)).bind_of_ne nofun

/-- The operations of the days of a walk, one after another. -/
def visitAllOperations (state : WeighedBalance) (byDay : DailyRepayments) (days : List Date)
    : List Operation :=
  ofFold (fun state day => visit state byDay day)
    (fun state day => state.visitOperations byDay day) state days

end WeighedBalance

/-- The operations of the walk through a window and of its end. -/
def weighingOperations (window : MonthWindow) (disbursement : Date) (closing : Money)
    (byDay : DailyRepayments)
    : List Operation :=
  let boundary := window.boundary disbursement
  let days := (window.daysDescending boundary).toList
  following (WeighedBalance.start closing window) fun start =>
    start.visitAllOperations byDay days
      ++ following (start.visitAll byDay days) fun walked => walked.closeOperations boundary

theorem explain_weighingOperations (window : MonthWindow) (disbursement : Date) (closing : Money)
    (byDay : DailyRepayments)
    : Explain (weighingOperations window disbursement closing byDay) Fault.overflowed
        (weighWindow window disbursement closing byDay) := by
  unfold weighingOperations weighWindow
  rcases WeighedBalance.start closing window with error | start
  · exact explain_of_ne nofun
  · refine Explain.bind_lift ?_ fun walked _ => (walked.explain_closeOperations _).lift
    exact explain_ofFold fun state day => state.explain_visitOperations byDay day

/-- The daily mode lists the repayments by day, sums them from the boundary on and weighs the
balances. What is reported for the weighted sum takes neither additions nor weightings.
-/
def dailyOperations (disbursement : Date) (window : MonthWindow) (balance : Money)
    (transactions : List LoanTransaction)
    : List Operation :=
  DailyRepayments.listingOperations transactions
    ++ following (DailyRepayments.ofTransactions transactions) fun all =>
      let byDay := all.onOrAfter (window.boundary disbursement)
      Money.additions (byDay.map Prod.snd)
        ++ following byDay.total fun _ => weighingOperations window disbursement balance byDay

theorem explain_dailyOperations (policy : AveragingPolicy) (places : Nat) (disbursement : Date)
    (window : MonthWindow) (balance : Money) (transactions : List LoanTransaction)
    : Explain (dailyOperations disbursement window balance transactions) Fault.overflowed
        (dailyRule policy places disbursement window balance transactions) := by
  refine (DailyRepayments.explain_listingOperations transactions).bind_lift fun all _ => ?_
  refine (Money.explain_additions _).bind_lift fun repaid _ => ?_
  -- behind the weighing there is only the figure, which never overflows
  refine (explain_weighingOperations window disbursement balance _).bind_of_ne ?_
  intro weighed kind
  cases policy.figure places window weighed.weightedSum <;> nofun

-----------------------------------------------------------------------------------------
-- The months of a loan
-----------------------------------------------------------------------------------------

/-- The operations of a walk back through months are those of the months in which the loan is
running, up to the first month without a balance to go on with.
-/
def summariseOperations (source : TransactionSource) (rule : MonthRule)
    (operations : MonthWindow → Money → List LoanTransaction → List Operation) (loan : Loan)
    : List MonthWindow → Money → FetchLog → List Operation
  | [], _, _ => []
  | window :: earlier, balance, log =>
    if loan.startsAfter window then
      summariseOperations source rule operations loan earlier balance log
    else
      following (source.answer log (loan.fetchIn window)) fun transactions =>
        operations window balance transactions
          ++ following (rule window balance transactions) fun month =>
            summariseOperations source rule operations loan earlier month.2
              (log ++ [loan.fetchIn window])

/-- The overflow of a walk is explained if that of every month is, by induction over the months. -/
theorem explain_summariseOperations {source : TransactionSource} {rule : MonthRule}
    {operations : MonthWindow → Money → List LoanTransaction → List Operation} {loan : Loan}
    (explain
      : ∀ window balance transactions,
          Explain (operations window balance transactions) Fault.overflowed
            (rule window balance transactions))
    (windows : List MonthWindow) (balance : Money) (log : FetchLog)
    : Explain (summariseOperations source rule operations loan windows balance log)
        Fault.overflowed ((summarise source rule loan windows balance).runAfter log).1 := by
  induction windows generalizing balance log with
  | nil => exact explain_ok []
  | cons window earlier ih =>
      rw [summariseOperations, runAfter_summarise_cons]
      split
      · exact (ih balance log).map _
      · rcases source.answer log (loan.fetchIn window) with error | transactions
        · exact explain_of_ne nofun
        · dsimp only
          have steps := (explain window balance transactions).bind fun month _ =>
            (ih month.2 (log ++ [loan.fetchIn window])).map (month.1 :: ·)
          intro kind overflow
          refine steps kind ?_
          rw [← overflow]
          rcases rule window balance transactions with fault | ⟨month, opening⟩ <;> rfl

namespace SummaryBuilder

/-- The operations that a mode makes for a month. -/
def ruleOperations (loan : Loan)
    : SummaryMode → MonthWindow → Money → List LoanTransaction → List Operation
  | .monthly => fun _ => monthlyOperations
  | .daily => dailyOperations loan.disbursementDate

/-- The operations made to build the series of a loan after some requests. -/
def operations (builder : SummaryBuilder) (loan : Loan) (mode : SummaryMode) (log : FetchLog)
    : List Operation :=
  summariseOperations builder.source (builder.rule loan mode) (ruleOperations loan mode) loan
    builder.period.windows (mode.closingBalance loan) log

theorem explain_operations (builder : SummaryBuilder) (loan : Loan) (product : LoanProduct)
    (mode : SummaryMode) (log : FetchLog)
    : Explain (builder.operations loan mode log) Fault.overflowed
        ((builder.build loan product mode).runAfter log).1 := by
  rw [runAfter_build]
  apply Explain.map
  apply explain_summariseOperations
  intro window balance transactions
  cases mode with
  | monthly => exact explain_monthlyOperations window balance transactions
  | daily => exact explain_dailyOperations _ _ _ window balance transactions

end SummaryBuilder

end ChargeBasis

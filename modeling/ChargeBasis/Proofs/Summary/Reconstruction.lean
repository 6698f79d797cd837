import ChargeBasis.Proofs.Summary.DatedSums
import ChargeBasis.Proofs.Summary.Months

/-!
Rebuilding balances from a history. The balance at the end of a day is today's balance together
with everything that is repaid after the day, so a walk back through months meets the balance of
every month's last day, provided that each month adds back what is repaid in it.
-/

namespace ChargeBasis

-----------------------------------------------------------------------------------------
-- Sums over a history
-----------------------------------------------------------------------------------------

/-- The sum of an amount over the repayments of a history on certain days. -/
def repaidOn (amount : LoanTransaction → Money) (history : List LoanTransaction)
    (days : Date → Prop) [DecidablePred days]
    : ℚ :=
  ((history.filter fun t => t.isRepayment ∧ days t.date).map fun t => (amount t).toRat).sum

section RepaidOn

variable {amount : LoanTransaction → Money} {history : List LoanTransaction}

/-- What is repaid on certain days is the sum over the repayments, listed with their days. -/
theorem repaidOn_eq_sumOn (days : Date → Prop) [DecidablePred days]
    : repaidOn amount history days
      = DailyRepayments.sumOn
          ((history.filter (·.isRepayment)).map fun t => (t.date, amount t)) days := by
  rw [repaidOn, DailyRepayments.sumOn, List.filter_map, List.map_map, List.filter_filter]
  congr 2
  apply List.filter_congr
  intro t _
  simp [Bool.and_comm]

@[simp] theorem repaidOn_nil (days : Date → Prop) [DecidablePred days]
    : repaidOn amount [] days = 0 :=
  rfl

theorem repaidOn_cons (t : LoanTransaction) (days : Date → Prop) [DecidablePred days]
    : repaidOn amount (t :: history) days
      = (if t.isRepayment ∧ days t.date then (amount t).toRat else 0)
        + repaidOn amount history days := by
  rw [repaidOn_eq_sumOn, repaidOn_eq_sumOn]
  by_cases repays : t.isRepayment = true
  · rw [List.filter_cons_of_pos repays, List.map_cons, DailyRepayments.sumOn_cons]
    simp [repays]
  · rw [List.filter_cons_of_neg repays]
    simp [repays]

theorem repaidOn_append (front back : List LoanTransaction) (days : Date → Prop)
    [DecidablePred days]
    : repaidOn amount (front ++ back) days
      = repaidOn amount front days + repaidOn amount back days := by
  simp only [repaidOn_eq_sumOn, List.filter_append, List.map_append]
  exact DailyRepayments.sumOn_append _ _ days

theorem repaidOn_perm {other : List LoanTransaction} (same : history.Perm other)
    (days : Date → Prop) [DecidablePred days]
    : repaidOn amount history days = repaidOn amount other days :=
  ((same.filter _).map _).sum_eq

/-- Days on which nothing is repaid can be exchanged. -/
theorem repaidOn_congr {p q : Date → Prop} [DecidablePred p] [DecidablePred q]
    (same : ∀ t ∈ history, t.isRepayment = true → (p t.date ↔ q t.date))
    : repaidOn amount history p = repaidOn amount history q := by
  rw [repaidOn_eq_sumOn, repaidOn_eq_sumOn]
  apply DailyRepayments.sumOn_congr
  intro entry member
  obtain ⟨t, kept, rfl⟩ := List.mem_map.mp member
  obtain ⟨listed, repays⟩ := List.mem_filter.mp kept
  exact same t listed repays

/-- Of the part of a history on certain days only those days count. -/
theorem repaidOn_filter (p q : Date → Prop) [DecidablePred p] [DecidablePred q]
    : repaidOn amount (history.filter fun t => p t.date) q
      = repaidOn amount history fun d => p d ∧ q d := by
  rw [repaidOn_eq_sumOn, repaidOn_eq_sumOn, ← DailyRepayments.sumOn_filter, List.filter_map,
    List.filter_filter, List.filter_filter]
  simp only [Function.comp_def, Bool.and_comm]

theorem repaidOn_union {p q r : Date → Prop} [DecidablePred p] [DecidablePred q]
    [DecidablePred r] (parts : ∀ d, r d ↔ p d ∨ q d) (disjoint : ∀ d, ¬(p d ∧ q d))
    : repaidOn amount history r = repaidOn amount history p + repaidOn amount history q := by
  simp only [repaidOn_eq_sumOn]
  exact DailyRepayments.sumOn_union parts disjoint

/-- The magnitudes of an amount over a whole history. -/
def turnover (amount : LoanTransaction → Money) (history : List LoanTransaction) : ℚ :=
  (history.map fun t => |(amount t).toRat|).sum

theorem turnover_eq_magnitude (amount : LoanTransaction → Money) (history : List LoanTransaction)
    : turnover amount history = magnitude (history.map amount) := by
  rw [turnover, magnitude, List.map_map]
  rfl

theorem turnover_nonneg (amount : LoanTransaction → Money) (history : List LoanTransaction)
    : 0 ≤ turnover amount history := by
  rw [turnover_eq_magnitude]
  exact magnitude_nonneg _

theorem turnover_perm {other : List LoanTransaction} (same : history.Perm other)
    : turnover amount history = turnover amount other := by
  rw [turnover_eq_magnitude, turnover_eq_magnitude]
  exact magnitude_perm (same.map amount)

theorem turnover_sublist (amount : LoanTransaction → Money) {part : List LoanTransaction}
    (within : part.Sublist history)
    : turnover amount part ≤ turnover amount history := by
  rw [turnover_eq_magnitude, turnover_eq_magnitude]
  exact magnitude_sublist (within.map amount)

theorem turnover_answer (amount : LoanTransaction → Money) {transactions : List LoanTransaction}
    {asked : LoanTransaction → Bool} (answer : transactions.Perm (history.filter asked))
    : turnover amount transactions ≤ turnover amount history :=
  (turnover_perm answer).trans_le (turnover_sublist amount List.filter_sublist)

/-- What is repaid on certain days is bounded by the turnover. -/
theorem abs_repaidOn_le (days : Date → Prop) [DecidablePred days]
    : |repaidOn amount history days| ≤ turnover amount history := by
  let repayments := history.filter fun t => t.isRepayment ∧ days t.date
  have total : repaidOn amount history days = ((repayments.map amount).map Money.toRat).sum := by
    rw [List.map_map]
    rfl
  calc |repaidOn amount history days|
      ≤ magnitude (repayments.map amount) := total ▸ abs_sum_toRat_le _
    _ = turnover amount repayments := (turnover_eq_magnitude amount repayments).symm
    _ ≤ turnover amount history := turnover_sublist amount List.filter_sublist

end RepaidOn

-----------------------------------------------------------------------------------------
-- Balances
-----------------------------------------------------------------------------------------

/-- The balance at the end of a day, rebuilt from the balance at the end of a period: whatever is
repaid after the day, up to the end of the period, is still owed on it.
-/
def balanceAt (closing : Money) (amount : LoanTransaction → Money)
    (history : List LoanTransaction) (periodEnd : Date) (day : Int)
    : ℚ :=
  closing.toRat
    + repaidOn amount history fun date => day < date.dayNumber ∧ date ≤ periodEnd

section BalanceAt

variable {closing : Money} {amount : LoanTransaction → Money}
  {history : List LoanTransaction} {periodEnd : Date}

/-- At the end of the period nothing is left to be added back. -/
theorem balanceAt_end
    : balanceAt closing amount history periodEnd periodEnd.dayNumber = closing.toRat := by
  have nothing
      : repaidOn amount history
          (fun date => periodEnd.dayNumber < date.dayNumber ∧ date ≤ periodEnd)
        = repaidOn amount history fun _ => False := by
    apply repaidOn_congr
    intro t _ _
    refine ⟨?_, False.elim⟩
    intro days
    obtain ⟨after, before⟩ := days
    have upper : t.date.dayNumber ≤ periodEnd.dayNumber := before
    omega
  rw [balanceAt, nothing]
  simp [repaidOn]

/-- Going back to a day adds back what is repaid after it. -/
theorem balanceAt_earlier {day : Int} {last : Date} (ordered : day ≤ last.dayNumber)
    (within : last ≤ periodEnd)
    : balanceAt closing amount history periodEnd day
      = balanceAt closing amount history periodEnd last.dayNumber
        + repaidOn amount history fun date => day < date.dayNumber ∧ date ≤ last := by
  have inside : last.dayNumber ≤ periodEnd.dayNumber := within
  rw [balanceAt, balanceAt, add_assoc]
  congr 1
  apply repaidOn_union
  · intro d
    change day < d.dayNumber ∧ d.dayNumber ≤ periodEnd.dayNumber
      ↔ (last.dayNumber < d.dayNumber ∧ d.dayNumber ≤ periodEnd.dayNumber)
        ∨ (day < d.dayNumber ∧ d.dayNumber ≤ last.dayNumber)
    omega
  · intro d days
    obtain ⟨⟨after, _⟩, _, before⟩ := days
    have upper : d.dayNumber ≤ last.dayNumber := before
    omega

/-- Going back over some days adds back what is repaid on them. -/
theorem balanceAt_before {first last : Date} (ordered : first.dayNumber ≤ last.dayNumber + 1)
    (within : last ≤ periodEnd)
    : balanceAt closing amount history periodEnd (first.dayNumber - 1)
      = balanceAt closing amount history periodEnd last.dayNumber
        + repaidOn amount history fun date => first ≤ date ∧ date ≤ last := by
  rw [balanceAt_earlier (by omega) within]
  congr 1
  apply repaidOn_congr
  intro t _ _
  change first.dayNumber - 1 < t.date.dayNumber ∧ t.date ≤ last
    ↔ first.dayNumber ≤ t.date.dayNumber ∧ t.date ≤ last
  rw [Int.sub_one_lt_iff]

theorem abs_balanceAt_le (closing : Money) (amount : LoanTransaction → Money)
    (history : List LoanTransaction) (periodEnd : Date) (day : Int)
    : |balanceAt closing amount history periodEnd day|
      ≤ |closing.toRat| + turnover amount history :=
  (abs_add_le _ _).trans (add_le_add_right (abs_repaidOn_le _) _)

end BalanceAt

-----------------------------------------------------------------------------------------
-- Requests
-----------------------------------------------------------------------------------------

/-- The requests for the months in which a loan is running. -/
def Loan.requestsIn (loan : Loan) (windows : List MonthWindow) : List Fetch :=
  (windows.filter fun window => !loan.startsAfter window).map loan.fetchIn

@[simp] theorem Loan.requestsIn_nil (loan : Loan)
    : loan.requestsIn [] = [] :=
  rfl

theorem Loan.requestsIn_append (loan : Loan) (later earlier : List MonthWindow)
    : loan.requestsIn (later ++ earlier) = loan.requestsIn later ++ loan.requestsIn earlier := by
  simp [requestsIn]

theorem Loan.requestsIn_singleton {loan : Loan} {window : MonthWindow}
    (running : loan.startsAfter window = false)
    : loan.requestsIn [window] = [loan.fetchIn window] := by
  simp [requestsIn, running]

theorem Loan.requestsIn_of_idle {loan : Loan} {windows : List MonthWindow}
    (idle : ∀ window ∈ windows, loan.startsAfter window = true)
    : loan.requestsIn windows = [] := by
  rw [requestsIn, List.map_eq_nil_iff, List.filter_eq_nil_iff]
  intro window member
  simp [idle window member]

/-- Something holds of every month in which the loan is running and of the answer to its request,
which follows the requests for the later months.
-/
def Loan.EveryAnswer (loan : Loan) (source : TransactionSource) (log : FetchLog)
    (windows : List MonthWindow) (P : MonthWindow → List LoanTransaction → Prop)
    : Prop :=
  ∀ later window earlier transactions,
    windows = later ++ window :: earlier
    → loan.startsAfter window = false
    → source.answer (log ++ loan.requestsIn later) (loan.fetchIn window) = .ok transactions
    → P window transactions

theorem Loan.everyAnswer_trivial (loan : Loan) (source : TransactionSource) (log : FetchLog)
    (windows : List MonthWindow)
    : loan.EveryAnswer source log windows fun _ _ => True :=
  fun _ _ _ _ _ _ _ => trivial

/-- What follows for the transactions of a month from what holds of the answers holds of the
answers, too, if the source reports the history of the loan.
-/
theorem Loan.EveryAnswer.of_reports {loan : Loan} {source : TransactionSource}
    {history : List LoanTransaction} {log : FetchLog} {windows : List MonthWindow}
    {P Q : MonthWindow → List LoanTransaction → Prop}
    (every : loan.EveryAnswer source log windows P) (reports : source.Reports loan.id history)
    (step
      : ∀ window ∈ windows,
          loan.startsAfter window = false
          → ∀ transactions,
              transactions.Perm
                (history.filter fun t => window.firstDay ≤ t.date ∧ t.date ≤ window.lastDay)
              → P window transactions
              → Q window transactions)
    : loan.EveryAnswer source log windows Q := by
  intro later window earlier transactions split running answer
  obtain ⟨reported, same, content⟩ :=
    reports (log ++ loan.requestsIn later) window.firstDay window.lastDay
  cases same.symm.trans answer
  exact step window (by rw [split]; simp) running _ content
    (every later window earlier _ split running answer)

/-- A loan that starts after a month starts after the months before it, too. -/
theorem Loan.idle_before {loan : Loan} {window : MonthWindow} {earlier : List MonthWindow}
    {last : Int} (months : MonthWindow.MonthsBackFrom last (window :: earlier))
    (idle : loan.startsAfter window = true)
    : ∀ w ∈ earlier, loan.startsAfter w = true := by
  intro w member
  obtain ⟨whole, _, rest⟩ := months
  have bound := (rest.forall_mem member).2
  have days := whole.first_le_last
  simp only [startsAfter, decide_eq_true_eq] at idle ⊢
  have start : window.lastDay.dayNumber ≤ loan.disbursementDate.dayNumber := idle
  change w.lastDay.dayNumber ≤ loan.disbursementDate.dayNumber
  omega

/-- A loan that is running in the month before was disbursed before the month. -/
theorem Loan.disbursed_before {loan : Loan} {window previous : MonthWindow}
    {earlier : List MonthWindow} {last : Int}
    (months : MonthWindow.MonthsBackFrom last (window :: earlier))
    (next : previous ∈ earlier.head?) (running : loan.startsAfter previous = false)
    : loan.disbursementDate < window.firstDay := by
  cases earlier with
  | nil => cases next
  | cons head _ =>
      cases next
      have before := months.2.2.2.1
      rw [startsAfter, decide_eq_false_iff_not] at running
      have start : ¬ previous.lastDay.dayNumber ≤ loan.disbursementDate.dayNumber := running
      change loan.disbursementDate.dayNumber < window.firstDay.dayNumber
      omega

-----------------------------------------------------------------------------------------
-- The walk back
-----------------------------------------------------------------------------------------

/-- For the answer to the request for a month the rule reports these values and, starting from the
exact balance at the end of the month, goes on with the exact balance at the end of the month
before. In the month of the disbursement there is nothing to go on with.
-/
def MonthRule.Rebuilds (rule : MonthRule) (loan : Loan) (balances : Int → ℚ)
    (outstanding repaid : MonthWindow → ℚ) (window : MonthWindow)
    (transactions : List LoanTransaction)
    : Prop :=
  ∀ balance : Money,
    balance.Settled
    → balance.toRat = balances window.lastDay.dayNumber
    → ∃ figures opening,
        rule window balance transactions = .ok (figures, opening)
        ∧ figures.outstanding.toRat = outstanding window
        ∧ figures.repaid.toRat = repaid window
        ∧ opening.Settled
        ∧ (loan.disbursementDate < window.firstDay
            → opening.toRat = balances (window.firstDay.dayNumber - 1))

/-- The values reported for months, with nothing for a month in which the loan is not running. -/
def Loan.valuesIn (loan : Loan) (value : MonthWindow → ℚ) (windows : List MonthWindow)
    : List ℚ :=
  windows.map fun window => if loan.startsAfter window then 0 else value window

theorem Loan.valuesIn_of_idle {loan : Loan} {windows : List MonthWindow}
    (idle : ∀ window ∈ windows, loan.startsAfter window = true) (value : MonthWindow → ℚ)
    : loan.valuesIn value windows = windows.map fun _ => 0 :=
  List.map_congr_left fun window member => if_pos (idle window member)

/-- A walk back through months reports the values of a rule that rebuilds every month, and makes
one request for each month in which the loan is running. The induction is over the months still
to come; the balance is exact as long as the next month is one in which the loan is running.
-/
theorem summarise_exact_from {source : TransactionSource} {rule : MonthRule} {loan : Loan}
    {history : List LoanTransaction} {balances : Int → ℚ} {outstanding repaid : MonthWindow → ℚ}
    {log : FetchLog} {all : List MonthWindow} (reports : source.Reports loan.id history)
    (rebuilds
      : loan.EveryAnswer source log all (rule.Rebuilds loan balances outstanding repaid))
    {later windows : List MonthWindow} (split : all = later ++ windows) {last : Int}
    (months : MonthWindow.MonthsBackFrom last windows) {balance : Money}
    (settled : balance.Settled)
    (exact
      : ∀ window ∈ windows.head?,
          loan.startsAfter window = false → balance.toRat = balances last)
    : ∃ figures,
        (summarise source rule loan windows balance).runAfter (log ++ loan.requestsIn later)
          = (.ok figures, log ++ loan.requestsIn all)
        ∧ figures.map (·.outstanding.toRat) = loan.valuesIn outstanding windows
        ∧ figures.map (·.repaid.toRat) = loan.valuesIn repaid windows := by
  induction windows generalizing later last balance with
  | nil =>
      subst split
      exact ⟨[], by simp [summarise], rfl, rfl⟩
  | cons window earlier ih =>
      cases running : loan.startsAfter window with
      | true =>
          -- the months before this one are idle, too: no request is made any more
          have idle : ∀ w ∈ window :: earlier, loan.startsAfter w = true := by
            intro w member
            rcases List.mem_cons.mp member with rfl | member
            · exact running
            · exact Loan.idle_before months running w member
          refine ⟨(window :: earlier).map fun _ => .none, ?_, ?_, ?_⟩
          · rw [summarise_of_idle idle, split, Loan.requestsIn_append, Loan.requestsIn_of_idle idle,
              List.append_nil]
          · rw [Loan.valuesIn_of_idle idle]
            simp [MonthFigures.none]
          · rw [Loan.valuesIn_of_idle idle]
            simp [MonthFigures.none]
      | false =>
          have ends := months.2.1
          have rest := months.2.2
          obtain ⟨transactions, answer, _⟩ :=
            reports (log ++ loan.requestsIn later) window.firstDay window.lastDay
          obtain ⟨figures, opening, month, outstanding_eq, repaid_eq, opening_settled, goes_on⟩ :=
            rebuilds later window earlier transactions split running answer balance settled
              (by rw [exact window rfl running, ends])
          -- an idle month needs no balance, so this one is exact where it is needed
          have next_running
              : ∀ previous ∈ earlier.head?,
                  loan.startsAfter previous = false
                  → opening.toRat = balances (window.firstDay.dayNumber - 1) :=
            fun previous next active => goes_on (Loan.disbursed_before months next active)
          have asked
              : log ++ loan.requestsIn (later ++ [window])
                = log ++ loan.requestsIn later ++ [loan.fetchIn window] := by
            rw [Loan.requestsIn_append, Loan.requestsIn_singleton running, List.append_assoc]
          have further : all = later ++ [window] ++ earlier := by
            rw [split, List.append_assoc, List.singleton_append]
          obtain ⟨tail, walk, outstanding_tail, repaid_tail⟩ :=
            ih further rest opening_settled next_running
          rw [asked] at walk
          refine ⟨figures :: tail, summarise_of_running running answer month walk, ?_, ?_⟩
          · rw [List.map_cons, outstanding_eq, outstanding_tail]
            simp [Loan.valuesIn, running]
          · rw [List.map_cons, repaid_eq, repaid_tail]
            simp [Loan.valuesIn, running]

-----------------------------------------------------------------------------------------
-- Series
-----------------------------------------------------------------------------------------

theorem Loan.valuesIn_reverse (loan : Loan) (value : MonthWindow → ℚ)
    (windows : List MonthWindow)
    : loan.valuesIn value windows.reverse = (loan.valuesIn value windows).reverse :=
  List.map_reverse

/-- What is reported for a month is its value if the loan is running, and otherwise nothing. -/
theorem Loan.exists_reportedIn {loan : Loan} {value : MonthWindow → ℚ} {amounts : List Money}
    {windows : List MonthWindow}
    (reported : amounts.map (·.toRat) = loan.valuesIn value windows) {month : Nat}
    {window : MonthWindow} (place : windows[month]? = some window)
    : ∃ amount,
        amounts[month]? = some amount
        ∧ amount.toRat = if loan.startsAfter window then 0 else value window := by
  have entry
      : (amounts.map (·.toRat))[month]?
        = some (if loan.startsAfter window then 0 else value window) := by
    rw [reported, valuesIn, List.getElem?_map, place]
    rfl
  simpa using entry

/-- What is reported for a month in which the loan is running is the value of the month. -/
theorem Loan.exists_reported {loan : Loan} {value : MonthWindow → ℚ} {amounts : List Money}
    {windows : List MonthWindow}
    (reported : amounts.map (·.toRat) = loan.valuesIn value windows) {month : Nat}
    {window : MonthWindow} (place : windows[month]? = some window)
    (running : loan.startsAfter window = false)
    : ∃ amount, amounts[month]? = some amount ∧ amount.toRat = value window := by
  obtain ⟨amount, entry, worth⟩ := loan.exists_reportedIn reported place
  exact ⟨amount, entry, by simpa [running] using worth⟩

namespace SummaryBuilder

/-- A mode whose rule rebuilds every month reports the values of the rule in every month in which
the loan is running and zero in the others.
-/
theorem build_exact {builder : SummaryBuilder} {loan : Loan} {history : List LoanTransaction}
    {balances : Int → ℚ} {outstanding repaid : MonthWindow → ℚ} {log : FetchLog}
    (product : LoanProduct) (mode : SummaryMode)
    (reports : builder.source.Reports loan.id history)
    (settled : (mode.closingBalance loan).Settled)
    (closing : (mode.closingBalance loan).toRat = balances builder.period.toDate.dayNumber)
    (rebuilds
      : loan.EveryAnswer builder.source log builder.period.windows
          ((builder.rule loan mode).Rebuilds loan balances outstanding repaid))
    : ∃ series,
        (builder.build loan product mode).runAfter log
          = (.ok series, log ++ loan.requestsIn builder.period.windows)
        ∧ series.outstanding.map (·.toRat)
          = loan.valuesIn outstanding builder.period.windows.reverse
        ∧ series.repayments.map (·.toRat)
          = loan.valuesIn repaid builder.period.windows.reverse := by
  obtain ⟨figures, walk, outstanding_eq, repaid_eq⟩ :=
    summarise_exact_from reports rebuilds (List.nil_append _).symm
      builder.period.monthsBackFrom_windows settled fun _ _ _ => closing
  rw [Loan.requestsIn_nil, List.append_nil] at walk
  have figured : (builder.figures loan mode).runAfter log = (.ok figures, _) := walk
  refine ⟨.ofFigures loan product mode figures, ?_, ?_, ?_⟩
  · rw [runAfter_build, figured]
    rfl
  · rw [Loan.valuesIn_reverse, ← outstanding_eq, BalanceSeries.ofFigures, List.map_reverse,
      List.map_map]
    rfl
  · rw [Loan.valuesIn_reverse, ← repaid_eq, BalanceSeries.ofFigures, List.map_reverse,
      List.map_map]
    rfl

end SummaryBuilder

-----------------------------------------------------------------------------------------
-- A loan in a quarter
-----------------------------------------------------------------------------------------

namespace Sample

def day (month : Month) (day : Nat) (exists_day : 1 ≤ day ∧ day ≤ month.lengthIn 2024) : Date :=
  ⟨2024, month, day, by decide, by decide, exists_day.1, exists_day.2⟩

def quarter : ChargePeriod where
  period := .quarterly .q1
  year := 2024
  fromDate := day .january 1 (by decide)
  toDate := day .march 31 (by decide)
  fromDate_eq := BillingPeriod.fromDate_eq_ok_iff.mpr ⟨by decide, rfl, rfl, rfl⟩
  toDate_eq := BillingPeriod.toDate_eq_ok_iff.mpr ⟨by decide, rfl, rfl, rfl⟩
  fromDate_lt := by decide

def product : LoanProduct := ⟨1, "Overdraft", "OD", .demand⟩

/-- A loan disbursed in the middle of the quarter. -/
def loan : Loan where
  id := 7
  client := 1
  product := 1
  principalOutstanding := .ofMajor 800
  totalOutstanding := .ofMajor 1000
  disbursementDate := day .february 15 (by decide)

/-- What was recorded for the loan: a repayment before its disbursement, two on one day, a waiver,
one on the last day of the quarter and one after it.
-/
def transactions : List LoanTransaction :=
  [.repayment 7 (day .february 10 (by decide)) (.ofMajor 50) (.ofMajor 50),
    .repayment 7 (day .february 20 (by decide)) (.ofMajor 110) (.ofMajor 100),
    .repayment 7 (day .february 20 (by decide)) (.ofMajor 30) (.ofMajor 20),
    ⟨7, day .march 10 (by decide), .waiver, .ofMajor 5, .ofMajor 5⟩,
    .repayment 7 (day .march 31 (by decide)) (.ofMajor 40) ⟨⟨false, 3550, 2, by decide, by decide⟩⟩,
    .repayment 7 (day .april 1 (by decide)) (.ofMajor 10) (.ofMajor 10)]

/-- The transactions among those of another loan. -/
def ledger : Ledger where
  transactions :=
    .repayment 8 (day .march 1 (by decide)) (.ofMajor 70) (.ofMajor 70) :: transactions
  unavailable := [(9, "closed")]

theorem reports
    : ledger.source.Reports loan.id transactions :=
  Ledger.reports_source rfl

end Sample

end ChargeBasis

import ChargeBasis.Proofs.Calendar.WholeMonths
import ChargeBasis.Proofs.Period.Months
import ChargeBasis.Proofs.Summary.DayTotals
import ChargeBasis.Proofs.Summary.Quarters

/-!
What has no influence on a series. Transactions of other loans, transactions that are no repayments,
those outside the period or in a month in which the loan is not running and, in the daily mode,
repayments before the disbursement are passed over, each kind at a place of its own. A ledger in
which any of them are recorded besides gives the same series or the same fault, to the last digit
and with the same requests.
-/

namespace ChargeBasis

-----------------------------------------------------------------------------------------
-- Further transactions
-----------------------------------------------------------------------------------------

/-- A ledger holds further transactions besides those of another one, in any places among them. -/
structure Ledger.ExtendedBy (ledger : Ledger) (further : List LoanTransaction)
    (extended : Ledger)
    : Prop where
  unavailable : extended.unavailable = ledger.unavailable
  kept : ledger.transactions.Sublist extended.transactions
  added : extended.transactions.Perm (ledger.transactions ++ further)

/-- A selection that takes none of the further transactions is what it was: it contains what it was
and is no longer.
-/
theorem Ledger.ExtendedBy.filter_eq {ledger extended : Ledger} {further : List LoanTransaction}
    (extension : ledger.ExtendedBy further extended) {p : LoanTransaction → Bool}
    (none : ∀ t ∈ further, p t = false)
    : extended.transactions.filter p = ledger.transactions.filter p := by
  have nothing : further.filter p = [] :=
    List.filter_eq_nil_iff.mpr fun t member => by simp [none t member]
  have lengths := (extension.added.filter p).length_eq
  rw [List.filter_append, nothing, List.append_nil] at lengths
  exact ((extension.kept.filter p).eq_of_length lengths.symm).symm

/-- What is repaid of the principal of a loan on a day, in the order of recording. -/
def Ledger.principalOn (ledger : Ledger) (loan : LoanId) (day : Date) : Except Overflow Money :=
  DailyRepayments.principalOn (ledger.transactionsOf loan) day

/-- Why a transaction that is recorded besides others has no influence on a loan over a period: it
belongs to another loan, is no repayment, is dated outside the period or in a month that ends before
the loan is running or, in the daily mode, before the disbursement on a day whose sum overflows with
the further transactions only if it does without them, and the other way round.
-/
inductive LoanTransaction.Irrelevant (t : LoanTransaction) (loan : Loan) (period : ChargePeriod)
    (mode : SummaryMode) (ledger extended : Ledger)
    : Prop
  | ofOtherLoan (owner : t.loan ≠ loan.id)
  | noRepayment (other : t.isRepayment = false)
  | beforePeriod (early : t.date < period.fromDate)
  | afterPeriod (late : period.toDate < t.date)
  | beforeRunning (idle : (MonthWindow.containing t.date).lastDay ≤ loan.disbursementDate)
  | beforeDisbursement (daily : mode = .daily) (early : t.date < loan.disbursementDate)
    (sums
      : (∃ total, ledger.principalOn loan.id t.date = .ok total)
        ↔ ∃ total, extended.principalOn loan.id t.date = .ok total)

-----------------------------------------------------------------------------------------
-- Days of a period
-----------------------------------------------------------------------------------------

/-- The month of a day is the window that the day lies in, if some day follows it. -/
theorem MonthWindow.Whole.lastDay_containing {window : MonthWindow} (whole : window.Whole)
    {follower d : Date} (following : window.lastDay.next? = some follower)
    (within : window.firstDay ≤ d ∧ d ≤ window.lastDay)
    : (containing d).lastDay = window.lastDay := by
  obtain ⟨year, month⟩ := (whole.mem_iff d).mp within
  have next : d.firstOfNextMonth? = window.firstDay.endOfMonth.firstOfNextMonth? := by
    simp only [Date.firstOfNextMonth?, Date.endOfMonth, year, month]
  have full
      : ¬ window.firstDay.endOfMonth.day
          < window.firstDay.endOfMonth.month.lengthIn window.firstDay.endOfMonth.year :=
    Nat.lt_irrefl _
  rw [whole.last, Date.next?, if_neg full, ← next] at following
  have followed : ¬ d.InLastMonth := by
    rw [← Date.firstOfNextMonth?_eq_none_iff, following]
    exact Option.some_ne_none follower
  have other := whole_containing_of_not_inLastMonth followed
  rw [other.eq_of_month whole year (congrArg Month.number month)]

/-- Every window of a period lies within it. -/
theorem ChargePeriod.within_of_mem_windows {period : ChargePeriod} {window : MonthWindow}
    (member : window ∈ period.windows)
    : period.fromDate ≤ window.firstDay ∧ window.lastDay ≤ period.toDate := by
  have months := period.monthsBackFrom_windows
  refine ⟨?_, (months.forall_mem member).2⟩
  obtain ⟨oldest, last, starts⟩ := Option.map_eq_some_iff.mp period.getLast?_windows
  obtain ⟨later, split⟩ := List.getLast?_eq_some_iff.mp last
  rw [split] at months member
  rcases List.mem_append.mp member with front | only
  · have before := months.before front (List.mem_singleton_self oldest)
    have days := (months.forall_mem (List.mem_append_right _ (List.mem_singleton_self oldest))).1
      |>.first_le_last
    rw [← starts]
    change oldest.firstDay.dayNumber ≤ window.firstDay.dayNumber
    omega
  · rw [List.mem_singleton.mp only, starts]
    exact Int.le_refl period.fromDate.dayNumber

/-- A repayment of a loan that is dated in a month in which the loan is running can only be
irrelevant in the daily mode, on a day before the disbursement.
-/
theorem LoanTransaction.Irrelevant.beforeDisbursement_of_running {t : LoanTransaction} {loan : Loan}
    {period : ChargePeriod} {mode : SummaryMode} {ledger extended : Ledger} {window : MonthWindow}
    (irrelevant : t.Irrelevant loan period mode ledger extended)
    (member : window ∈ period.windows) (running : loan.startsAfter window = false)
    (owner : t.loan = loan.id) (repays : t.isRepayment = true)
    (within : window.firstDay ≤ t.date ∧ t.date ≤ window.lastDay)
    : mode = .daily
      ∧ t.date < loan.disbursementDate
      ∧ ((∃ total, ledger.principalOn loan.id t.date = .ok total)
        ↔ ∃ total, extended.principalOn loan.id t.date = .ok total) := by
  obtain ⟨starts, ends⟩ := ChargePeriod.within_of_mem_windows member
  cases irrelevant with
  | ofOtherLoan other => exact absurd owner other
  | noRepayment other => cases repays.symm.trans other
  | beforePeriod early =>
      exact absurd (Int.lt_of_lt_of_le early (Int.le_trans starts within.1)) (Int.lt_irrefl _)
  | afterPeriod late =>
      exact absurd (Int.lt_of_lt_of_le late (Int.le_trans within.2 ends)) (Int.lt_irrefl _)
  | beforeRunning idle =>
      obtain ⟨follower, following⟩ := ChargePeriod.exists_next?_lastDay member
      have whole := (period.monthsBackFrom_windows.forall_mem member).1
      rw [whole.lastDay_containing following within] at idle
      rw [Loan.startsAfter, decide_eq_false_iff_not] at running
      exact absurd idle running
  | beforeDisbursement daily early sums => exact ⟨daily, early, sums⟩

-----------------------------------------------------------------------------------------
-- Answers
-----------------------------------------------------------------------------------------

/-- What a ledger answers to a request unless the loan is marked. -/
def Ledger.transactionsIn (ledger : Ledger) (request : Fetch) : List LoanTransaction :=
  (ledger.transactionsOf request.loan).filter fun t =>
    request.first ≤ t.date && t.date ≤ request.last

/-- On a day asked for, the answer has the repayments of the ledger. -/
theorem Ledger.principalOn_transactionsIn (ledger : Ledger) (request : Fetch) {day : Date}
    (within : request.first ≤ day ∧ day ≤ request.last)
    : DailyRepayments.principalOn (ledger.transactionsIn request) day
      = ledger.principalOn request.loan day := by
  unfold Ledger.principalOn DailyRepayments.principalOn Ledger.transactionsIn
  rw [List.filter_filter]
  congr 2
  apply List.filter_congr
  intro t _
  by_cases on : t.date = day
  · simp [on, within]
  · have missed : (t.date == day) = false := by simpa using on
    simp [missed]

section Answers

variable {loan : Loan} {period : ChargePeriod} {mode : SummaryMode} {ledger extended : Ledger}
  {further : List LoanTransaction} {window : MonthWindow}

/-- A selection of an answer is what it was if no further transaction in the answer is taken. -/
theorem Ledger.ExtendedBy.filter_transactionsIn (extension : ledger.ExtendedBy further extended)
    {request : Fetch} {p : LoanTransaction → Bool}
    (none
      : ∀ t ∈ further,
          t.loan = request.loan
          → request.first ≤ t.date ∧ t.date ≤ request.last
          → p t = false)
    : (extended.transactionsIn request).filter p = (ledger.transactionsIn request).filter p := by
  unfold Ledger.transactionsIn Ledger.transactionsOf
  rw [List.filter_filter, List.filter_filter, List.filter_filter, List.filter_filter]
  apply extension.filter_eq
  intro t member
  by_cases seen : t.loan = request.loan ∧ request.first ≤ t.date ∧ t.date ≤ request.last
  · simp [none t member seen.1 seen.2]
  · have missed
        : (decide (request.first ≤ t.date) && decide (t.date ≤ request.last)
            && t.loan == request.loan)
          = false := by
      simp only [← Bool.decide_and, Bool.and_eq_false_iff, decide_eq_false_iff_not,
        beq_eq_false_iff_ne]
      tauto
    rw [Bool.and_assoc, missed, Bool.and_false]

/-- In the monthly mode the answer has the same repayments. -/
theorem Ledger.ExtendedBy.repayments_eq (extension : ledger.ExtendedBy further extended)
    (irrelevant : ∀ t ∈ further, t.Irrelevant loan period .monthly ledger extended)
    (member : window ∈ period.windows) (running : loan.startsAfter window = false)
    : (extended.transactionsIn (loan.fetchIn window)).filter (·.isRepayment)
      = (ledger.transactionsIn (loan.fetchIn window)).filter (·.isRepayment) := by
  apply extension.filter_transactionsIn
  intro t listed owner within
  cases repays : t.isRepayment with
  | false => rfl
  | true =>
      obtain ⟨daily, _⟩ := (irrelevant t listed).beforeDisbursement_of_running member running owner
        repays within
      cases daily

/-- In the daily mode the answer has the same repayments from the disbursement on. -/
theorem Ledger.ExtendedBy.repaymentsFrom_eq (extension : ledger.ExtendedBy further extended)
    (irrelevant : ∀ t ∈ further, t.Irrelevant loan period mode ledger extended)
    (member : window ∈ period.windows) (running : loan.startsAfter window = false)
    : DailyRepayments.repaymentsFrom (window.boundary loan.disbursementDate)
          (extended.transactionsIn (loan.fetchIn window))
      = DailyRepayments.repaymentsFrom (window.boundary loan.disbursementDate)
          (ledger.transactionsIn (loan.fetchIn window)) := by
  apply extension.filter_transactionsIn
  intro t listed owner within
  cases repays : t.isRepayment with
  | false => rfl
  | true =>
      obtain ⟨_, early, _⟩ := (irrelevant t listed).beforeDisbursement_of_running member running
        owner repays within
      have before : t.date.dayNumber < loan.disbursementDate.dayNumber := early
      rw [Bool.true_and, decide_eq_false_iff_not]
      intro after
      have late : (window.boundary loan.disbursementDate).dayNumber ≤ t.date.dayNumber := after
      rw [MonthWindow.dayNumber_boundary] at late
      omega

/-- In the daily mode the days of the answer overflow with the further transactions exactly if they
do without them.
-/
theorem Ledger.ExtendedBy.exists_principalOn_iff (extension : ledger.ExtendedBy further extended)
    (irrelevant : ∀ t ∈ further, t.Irrelevant loan period mode ledger extended)
    (member : window ∈ period.windows) (running : loan.startsAfter window = false) (day : Date)
    : (∃ total,
          DailyRepayments.principalOn (extended.transactionsIn (loan.fetchIn window)) day
          = .ok total)
      ↔ ∃ total,
          DailyRepayments.principalOn (ledger.transactionsIn (loan.fetchIn window)) day
          = .ok total := by
  by_cases touched
    : ∃ t ∈ further,
        t.loan = loan.id
        ∧ t.isRepayment = true
        ∧ t.date = day
        ∧ window.firstDay ≤ t.date
        ∧ t.date ≤ window.lastDay
  · obtain ⟨t, listed, owner, repays, rfl, within⟩ := touched
    obtain ⟨_, _, sums⟩ := (irrelevant t listed).beforeDisbursement_of_running member running owner
      repays within
    rw [extended.principalOn_transactionsIn (loan.fetchIn window) within,
      ledger.principalOn_transactionsIn (loan.fetchIn window) within]
    exact sums.symm
  · have same
        : (extended.transactionsIn (loan.fetchIn window)).filter
            (fun t => t.isRepayment && t.date == day)
          = (ledger.transactionsIn (loan.fetchIn window)).filter fun t =>
              t.isRepayment && t.date == day := by
      apply extension.filter_transactionsIn
      intro t listed owner within
      rw [Bool.and_eq_false_iff]
      by_contra counts
      simp only [not_or, Bool.not_eq_false, beq_iff_eq] at counts
      exact touched ⟨t, listed, owner, counts.1, counts.2, within⟩
    rw [DailyRepayments.principalOn, same]
    rfl

end Answers

-----------------------------------------------------------------------------------------
-- Series
-----------------------------------------------------------------------------------------

/-- The monthly rule sees nothing but the repayments of a month. -/
theorem monthlyRule_congr (window : MonthWindow) {transactions others : List LoanTransaction}
    (same : transactions.filter (·.isRepayment) = others.filter (·.isRepayment)) (balance : Money)
    : monthlyRule window balance transactions = monthlyRule window balance others := by
  unfold monthlyRule
  rw [same]

/-- The daily rule sees nothing but the repayments by day from the disbursement on. -/
theorem dailyRule_congr {policy : AveragingPolicy} {places : Nat} {disbursement : Date}
    {window : MonthWindow} {transactions others : List LoanTransaction}
    (same
      : (DailyRepayments.ofTransactions transactions).map
            (·.onOrAfter (window.boundary disbursement))
        = (DailyRepayments.ofTransactions others).map
            (·.onOrAfter (window.boundary disbursement))) (balance : Money)
    : dailyRule policy places disbursement window balance transactions
      = dailyRule policy places disbursement window balance others := by
  unfold dailyRule
  rcases listed : DailyRepayments.ofTransactions transactions with kind | byDay <;>
    rcases otherListed : DailyRepayments.ofTransactions others with otherKind | other <;>
    rw [listed, otherListed] at same
  · cases same
    rfl
  · cases same
  · cases same
  · have kept : byDay.onOrAfter (window.boundary disbursement)
        = other.onOrAfter (window.boundary disbursement) := Except.ok.inj same
    change (Except.ok byDay >>= _ : Except Fault _) = Except.ok other >>= _
    simp only [bind, Except.bind, kept]

/-- A source answers for a month of a loan as another one does, as far as a rule can see. -/
def MonthRule.AnsweredAlike (rule : MonthRule) (loan : Loan) (source other : TransactionSource)
    (window : MonthWindow)
    : Prop :=
  ∀ log,
    (∃ error,
      source.answer log (loan.fetchIn window) = .error error
      ∧ other.answer log (loan.fetchIn window) = .error error)
    ∨ ∃ transactions otherTransactions,
        source.answer log (loan.fetchIn window) = .ok transactions
        ∧ other.answer log (loan.fetchIn window) = .ok otherTransactions
        ∧ ∀ balance, rule window balance transactions = rule window balance otherTransactions

/-- A walk is the same with answers in which the rule sees no difference, by induction over the
months.
-/
theorem runAfter_summarise_congr {rule : MonthRule} {loan : Loan}
    {source other : TransactionSource} {windows : List MonthWindow} {balance : Money}
    {log : FetchLog}
    (alike
      : ∀ window ∈ windows,
          loan.startsAfter window = false → rule.AnsweredAlike loan source other window)
    : (summarise source rule loan windows balance).runAfter log
      = (summarise other rule loan windows balance).runAfter log := by
  induction windows generalizing balance log with
  | nil => rfl
  | cons window earlier ih =>
      have alikeRest
          : ∀ w ∈ earlier, loan.startsAfter w = false → rule.AnsweredAlike loan source other w :=
        fun w member => alike w (List.mem_cons_of_mem _ member)
      rw [runAfter_summarise_cons, runAfter_summarise_cons]
      cases running : loan.startsAfter window with
      | true => simp only [if_true, ih alikeRest]
      | false =>
          rw [if_neg Bool.false_ne_true, if_neg Bool.false_ne_true]
          rcases alike window (List.mem_cons_self) running log with
            ⟨error, answer, otherAnswer⟩ | ⟨_, transactions, answer, otherAnswer, same⟩
          · rw [answer, otherAnswer]
          · simp only [answer, otherAnswer, same]
            rcases rule window balance transactions with fault | ⟨month, opening⟩
            · rfl
            · simp only [ih alikeRest]

/-- A ledger with further transactions that are irrelevant answers as before, as far as the rule of
the mode can see: the monthly rule sees the repayments of the month, the daily rule those from the
disbursement on, and whether the days before it overflow.
-/
theorem SummaryBuilder.answeredAlike (builder : SummaryBuilder) {loan : Loan} {mode : SummaryMode}
    {ledger extended : Ledger} {further : List LoanTransaction}
    (extension : ledger.ExtendedBy further extended)
    (irrelevant : ∀ t ∈ further, t.Irrelevant loan builder.period mode ledger extended)
    {window : MonthWindow} (member : window ∈ builder.period.windows)
    (running : loan.startsAfter window = false)
    : (builder.rule loan mode).AnsweredAlike loan extended.source ledger.source window := by
  intro log
  change
    (∃ error, extended.answer _ = .error error ∧ ledger.answer _ = .error error)
    ∨ ∃ transactions others, extended.answer _ = .ok transactions ∧ ledger.answer _ = .ok others ∧ _
  unfold Ledger.answer
  rw [extension.unavailable]
  cases ledger.unavailable.lookup (loan.fetchIn window).loan with
  | some reason => exact .inl ⟨_, rfl, rfl⟩
  | none =>
      refine .inr ⟨_, _, rfl, rfl, ?_⟩
      cases mode with
      | monthly =>
          exact monthlyRule_congr window (extension.repayments_eq irrelevant member running)
      | daily =>
          exact dailyRule_congr
            (DailyRepayments.onOrAfter_ofTransactions_congr
              (extension.repaymentsFrom_eq irrelevant member running)
              fun day _ => extension.exists_principalOn_iff irrelevant member running day)

/-- Further transactions that are irrelevant leave the series of a loan exactly as it is, or the
fault that there is instead, with the same requests; in both modes, however many there are and in
whatever places they are recorded.
-/
theorem SummaryBuilder.build_without_irrelevant (builder : SummaryBuilder) {loan : Loan}
    {mode : SummaryMode} {ledger extended : Ledger} {further : List LoanTransaction}
    (extension : ledger.ExtendedBy further extended)
    (irrelevant : ∀ t ∈ further, t.Irrelevant loan builder.period mode ledger extended)
    (product : LoanProduct) (log : FetchLog)
    : ({ builder with source := extended.source }.build loan product mode).runAfter log
      = ({ builder with source := ledger.source }.build loan product mode).runAfter log := by
  rw [runAfter_build, runAfter_build]
  exact congrArg (Prod.map _ id) (runAfter_summarise_congr fun _ member running =>
    builder.answeredAlike extension irrelevant member running)

namespace Sample

/-- Transactions of every kind that has no influence on the loan in the daily mode: of another loan,
an accrual, one after the quarter, one in a month before the disbursement and one on the day before.
-/
def further : List LoanTransaction :=
  [.repayment 8 (day .march 5 (by decide)) (.ofMajor 70) (.ofMajor 70),
    ⟨7, quarter.toDate, .accrual, .ofMajor 9, .ofMajor 9⟩,
    .repayment 7 (day .april 2 (by decide)) (.ofMajor 60) (.ofMajor 60),
    .repayment 7 (day .january 20 (by decide)) (.ofMajor 80) (.ofMajor 80),
    .repayment 7 (day .february 14 (by decide)) (.ofMajor 25) (.ofMajor 25)]

/-- The ledger with the further transactions in front of, among and behind its own. -/
def extended : Ledger where
  transactions :=
    further.drop 3 ++ ledger.transactions.take 4 ++ further.take 2 ++ ledger.transactions.drop 4
      ++ (further.drop 2).take 1
  unavailable := ledger.unavailable

theorem extendedBy
    : ledger.ExtendedBy further extended where
  unavailable := rfl
  kept := by decide +kernel
  added := by decide +kernel

theorem irrelevant_further
    : ∀ t ∈ further, t.Irrelevant loan quarter .daily ledger extended := by
  intro t member
  simp only [further, List.mem_cons, List.not_mem_nil, or_false] at member
  rcases member with rfl | rfl | rfl | rfl | rfl
  · exact .ofOtherLoan (by decide)
  · exact .noRepayment rfl
  · exact .afterPeriod (by decide)
  · exact .beforeRunning (by decide)
  · refine .beforeDisbursement rfl (by decide) (iff_of_true ⟨.zero, ?_⟩ ⟨.ofMajor 25, ?_⟩) <;>
      decide +kernel

end Sample

/-- The series of the sample loan, which has figures, is the same with the further transactions. -/
theorem SummaryBuilder.build_without_irrelevant_sample
    : let builder : SummaryBuilder := ⟨Sample.quarter, Sample.ledger.source, .weightedSum, 2⟩
      Sample.ledger.ExtendedBy Sample.further Sample.extended
      ∧ (∀ t ∈ Sample.further,
          t.Irrelevant Sample.loan Sample.quarter .daily Sample.ledger Sample.extended)
      ∧ ((builder.build Sample.loan Sample.product .daily).runAfter []).1.toOption.isSome = true
      ∧ ({ builder with source := Sample.extended.source }.build Sample.loan Sample.product
            .daily).runAfter []
        = (builder.build Sample.loan Sample.product .daily).runAfter [] := by
  intro builder
  refine ⟨Sample.extendedBy, Sample.irrelevant_further, by decide +kernel, ?_⟩
  exact builder.build_without_irrelevant Sample.extendedBy Sample.irrelevant_further
    Sample.product []

end ChargeBasis

import ChargeBasis.Proofs.Summary.Weighing

/-!
The daily mode end to end. What is reported for a month is the sum of the balances at the end of
its days, from the day of disbursement on, and the principal repaid on these days.
-/

namespace ChargeBasis

/-- All values that the daily mode forms for a month are in range: the principal repaid by day as
the transactions are listed, its total as it is added up from day to day, and the values that arise
when the balances are weighed.
-/
structure DailyInRange (window : MonthWindow) (disbursement : Date) (balances : ℤ → ℚ)
    (transactions : List LoanTransaction)
    : Prop where
  byDay
    : ∀ front, front <+: transactions
        → ∀ day, Money.InRange (repaidOn (·.principalPortion) front (· = day))
  repaid
    : ∀ day,
        Money.InRange
          (repaidOn (·.principalPortion) transactions fun date =>
            window.boundary disbursement ≤ date ∧ date ≤ day)
  weighing
    : WeighingInRange balances
        (fun n => ∃ t ∈ transactions, t.isRepayment = true ∧ t.date.dayNumber = n)
        (window.boundary disbursement).dayNumber window.lastDay.dayNumber

/-- A whole month is in range if 31 times a bound of its balances and its turnover is. -/
theorem DailyInRange.of_turnover {window : MonthWindow} {disbursement : Date} {balances : ℤ → ℚ}
    {transactions : List LoanTransaction} {bound : ℚ} (whole : window.Whole)
    (bounded : ∀ day, |balances day| ≤ bound)
    (turnover_le : turnover (·.principalPortion) transactions ≤ bound)
    (range : 31 * bound ≤ Money.exactLimit)
    : DailyInRange window disbursement balances transactions := by
  have positive : 0 ≤ bound := (abs_nonneg _).trans (bounded 0)
  have days := whole.last_le
  have boundary := window.dayNumber_boundary disbursement
  refine { byDay := ?_, repaid := ?_, weighing := .of_bound bounded ?_ }
  · intro front leading day
    have part := turnover_sublist (·.principalPortion) leading.sublist
    exact (abs_repaidOn_le _).trans (by linarith)
  · intro day
    exact (abs_repaidOn_le _).trans (by linarith)
  · have count
        : ((window.lastDay.dayNumber + 1 - (window.boundary disbursement).dayNumber : ℤ) : ℚ)
          ≤ 31 := by
      exact_mod_cast (by omega :
        window.lastDay.dayNumber + 1 - (window.boundary disbursement).dayNumber ≤ 31)
    exact (mul_le_mul_of_nonneg_right count positive).trans range

/-- Every month is in range if 31 times today's principal and the turnover of the history are. -/
theorem Loan.dailyInRange_of_turnover {loan : Loan} {source : TransactionSource}
    {history : List LoanTransaction} {log : FetchLog} {period : ChargePeriod}
    (reports : source.Reports loan.id history)
    (bound
      : 31 * (|loan.principalOutstanding.toRat| + turnover (·.principalPortion) history)
        ≤ Money.exactLimit)
    : loan.EveryAnswer source log period.windows fun window transactions =>
        DailyInRange window loan.disbursementDate
          (balanceAt loan.principalOutstanding (·.principalPortion) history period.toDate)
          transactions := by
  refine (loan.everyAnswer_trivial source log period.windows).of_reports reports ?_
  intro window member _ transactions answer _
  have whole := (period.monthsBackFrom_windows.forall_mem member).1
  have part := turnover_answer (·.principalPortion) answer
  have magnitude := abs_nonneg loan.principalOutstanding.toRat
  exact .of_turnover whole (abs_balanceAt_le _ _ _ _) (by linarith) bound

section Month

variable {window : MonthWindow} {disbursement periodEnd : Date} {closing : Money}
  {history transactions : List LoanTransaction}

/-- What a month's transactions repay from the boundary on is what is repaid in the history on the
days of the month that are not before the disbursement. -/
theorem repaidOn_month {amount : LoanTransaction → Money}
    (answer
      : transactions.Perm
          (history.filter fun t => window.firstDay ≤ t.date ∧ t.date ≤ window.lastDay))
    {p q : Date → Prop} [DecidablePred p] [DecidablePred q]
    (same
      : ∀ day,
          q day
            ↔ (window.firstDay ≤ day ∧ day ≤ window.lastDay)
              ∧ window.boundary disbursement ≤ day
              ∧ p day)
    : repaidOn amount (transactions.filter fun t => window.boundary disbursement ≤ t.date) p
      = repaidOn amount history q := by
  rw [repaidOn_filter (fun day => window.boundary disbursement ≤ day), repaidOn_perm answer,
    repaidOn_filter (fun day => window.firstDay ≤ day ∧ day ≤ window.lastDay)]
  exact repaidOn_congr fun t _ _ => (same t.date).symm

/-- The balances of a month rebuilt from its repayments by day are those of the history, from the
day before the boundary on.
-/
theorem balanceAfter_eq_balanceAt {byDay : DailyRepayments} {balance : Money}
    (answer
      : transactions.Perm
          (history.filter fun t => window.firstDay ≤ t.date ∧ t.date ≤ window.lastDay))
    (tallies
      : byDay.Tallies (transactions.filter fun t => window.boundary disbursement ≤ t.date))
    (within : window.lastDay ≤ periodEnd)
    (exact
      : balance.toRat
        = balanceAt closing (·.principalPortion) history periodEnd window.lastDay.dayNumber)
    (day : Int) (lower : (window.boundary disbursement).dayNumber - 1 ≤ day)
    (upper : day ≤ window.lastDay.dayNumber)
    : byDay.balanceAfter balance.toRat window.lastDay day
      = balanceAt closing (·.principalPortion) history periodEnd day := by
  rw [DailyRepayments.balanceAfter, balanceAt_earlier upper within, exact, tallies.sums]
  congr 1
  apply repaidOn_month answer
  intro date
  have boundary := window.dayNumber_boundary disbursement
  change day < date.dayNumber ∧ date.dayNumber ≤ window.lastDay.dayNumber
    ↔ (window.firstDay.dayNumber ≤ date.dayNumber
        ∧ date.dayNumber ≤ window.lastDay.dayNumber)
      ∧ (window.boundary disbursement).dayNumber ≤ date.dayNumber
      ∧ day < date.dayNumber ∧ date.dayNumber ≤ window.lastDay.dayNumber
  omega

/-- What is repaid from the boundary on is in range as it is added up from day to day. -/
theorem DailyInRange.repaid_onOrAfter {balances : ℤ → ℚ}
    (range : DailyInRange window disbursement balances transactions) (day : Date)
    : Money.InRange
        (repaidOn (·.principalPortion)
          (transactions.filter fun t => window.boundary disbursement ≤ t.date) (· ≤ day)) := by
  rw [repaidOn_filter (fun date => window.boundary disbursement ≤ date)]
  exact range.repaid day

/-- Weighing the balances that are rebuilt by day is in range: every repayment behind the boundary
is listed, so no stretch gets longer than allowed.
-/
theorem DailyInRange.weighing_byDay {balances : ℤ → ℚ} {byDay : DailyRepayments} {balance : ℚ}
    (range : DailyInRange window disbursement balances transactions)
    (tallies
      : byDay.Tallies (transactions.filter fun t => window.boundary disbursement ≤ t.date))
    (same
      : ∀ day : Int,
          (window.boundary disbursement).dayNumber - 1 ≤ day
          → day ≤ window.lastDay.dayNumber
          → byDay.balanceAfter balance window.lastDay day = balances day)
    : WeighingInRange (byDay.balanceAfter balance window.lastDay)
        (fun n => ∃ d ∈ byDay.days, d.dayNumber = n)
        (window.boundary disbursement).dayNumber window.lastDay.dayNumber := by
  apply range.weighing.of_same same
  intro n after _ change
  obtain ⟨t, member, repays, here⟩ := change
  refine ⟨t.date, (tallies.days t.date).mpr ⟨t, ?_, repays, rfl⟩, here⟩
  rw [List.mem_filter, decide_eq_true_eq]
  refine ⟨member, ?_⟩
  change (window.boundary disbursement).dayNumber ≤ t.date.dayNumber
  omega

/-- The days of a month on which a loan is running are those from the boundary on. -/
theorem sum_days_running (balances : ℤ → ℚ)
    : ∑ day ∈ Finset.Icc window.firstDay.dayNumber window.lastDay.dayNumber
          with disbursement.dayNumber ≤ day,
        balances day
      = ∑ day ∈ Finset.Ico (window.boundary disbursement).dayNumber
            (window.lastDay.dayNumber + 1),
          balances day := by
  congr 1
  ext day
  have boundary := window.dayNumber_boundary disbursement
  simp only [Finset.mem_filter, Finset.mem_Icc, Finset.mem_Ico]
  omega

/-- For the transactions of a month the daily rule weighs the balances of the days on which the
loan is running, adds up the principal repaid on them and goes back to the balance before them. What
is reported for the weighted sum is left to the averaging.
-/
theorem dailyRule_exact {balance : Money} (settled : balance.Settled)
    (places : ∀ t ∈ history, t.principalPortion.Settled)
    (within : window.lastDay ≤ periodEnd)
    (started : (window.boundary disbursement).dayNumber ≤ window.lastDay.dayNumber + 1)
    {follower : Date} (following : window.lastDay.next? = some follower)
    (answer
      : transactions.Perm
          (history.filter fun t => window.firstDay ≤ t.date ∧ t.date ≤ window.lastDay))
    (exact
      : balance.toRat
        = balanceAt closing (·.principalPortion) history periodEnd window.lastDay.dayNumber)
    (range
      : DailyInRange window disbursement
          (balanceAt closing (·.principalPortion) history periodEnd) transactions)
    : ∃ weightedSum repaid opening,
        (∀ policy places,
          dailyRule policy places disbursement window balance transactions
            = ((policy.figure places window weightedSum).mapError .failed).map
                fun figure => (⟨figure, repaid⟩, opening))
        ∧ weightedSum.Settled
        ∧ weightedSum.toRat
          = ∑ day ∈ Finset.Icc window.firstDay.dayNumber window.lastDay.dayNumber
                with disbursement.dayNumber ≤ day,
              balanceAt closing (·.principalPortion) history periodEnd day
        ∧ repaid.toRat
          = repaidOn (·.principalPortion) history
              (fun day =>
                (window.firstDay ≤ day ∧ day ≤ window.lastDay) ∧ disbursement ≤ day)
        ∧ opening.Settled
        ∧ opening.toRat
          = balanceAt closing (·.principalPortion) history periodEnd
              ((window.boundary disbursement).dayNumber - 1) := by
  have boundary := window.dayNumber_boundary disbursement
  have placesHere : ∀ t ∈ transactions, t.principalPortion.Settled :=
    fun t member => places t (List.mem_of_mem_filter (answer.mem_iff.mp member))
  obtain ⟨all, listed, allTallies⟩ :=
    DailyRepayments.ofTransactions_exact placesHere range.byDay
  have tallies := allTallies.onOrAfter (window.boundary disbursement)
  have balances := balanceAfter_eq_balanceAt answer tallies within exact
  obtain ⟨repaid, summed, _, repaidValue⟩ := tallies.total_exact range.repaid_onOrAfter
  obtain ⟨weighed, walked, openingSettled, openingValue, _, sumSettled, sumValue⟩ :=
    weighWindow_exact tallies.ascending tallies.settled settled started following
      (range.weighing_byDay tallies balances)
  refine ⟨weighed.weightedSum, repaid, weighed.runningBalance, ?_, sumSettled, ?_, ?_,
    openingSettled, ?_⟩
  · intro policy places
    simp only [dailyRule, listed, summed, walked, bind, Except.bind, liftM, monadLift,
      MonadLift.monadLift, Except.mapError, pure, Except.pure]
    cases policy.figure places window weighed.weightedSum <;> rfl
  · rw [sumValue, sum_days_running]
    apply Finset.sum_congr rfl
    intro day member
    obtain ⟨lower, upper⟩ := Finset.mem_Ico.mp member
    exact balances day (by omega) (by omega)
  · rw [repaidValue]
    apply repaidOn_month answer
    intro day
    change
      (window.firstDay.dayNumber ≤ day.dayNumber ∧ day.dayNumber ≤ window.lastDay.dayNumber)
        ∧ disbursement.dayNumber ≤ day.dayNumber
      ↔ (window.firstDay.dayNumber ≤ day.dayNumber
          ∧ day.dayNumber ≤ window.lastDay.dayNumber)
        ∧ (window.boundary disbursement).dayNumber ≤ day.dayNumber
        ∧ True
    rw [and_true]
    omega
  · rw [openingValue, balances _ (by omega) (by omega)]

end Month

namespace SummaryBuilder

section Daily

variable {builder : SummaryBuilder} {loan : Loan} {history : List LoanTransaction}
  {log : FetchLog}

/-- For the transactions of a month in which the loan is running the daily rule reports the weighted
sum and the principal repaid, and goes on with the balance before the month.
-/
theorem dailyRule_rebuilds {periodEnd : Date} {places : Nat} {window : MonthWindow}
    {transactions : List LoanTransaction}
    (settled : ∀ t ∈ history, t.principalPortion.Settled) (whole : window.Whole)
    (within : window.lastDay ≤ periodEnd) (running : loan.startsAfter window = false)
    {follower : Date} (following : window.lastDay.next? = some follower)
    (answer
      : transactions.Perm
          (history.filter fun t => window.firstDay ≤ t.date ∧ t.date ≤ window.lastDay))
    (range
      : DailyInRange window loan.disbursementDate
          (balanceAt loan.principalOutstanding (·.principalPortion) history periodEnd)
          transactions)
    : (dailyRule .weightedSum places loan.disbursementDate).Rebuilds loan
        (balanceAt loan.principalOutstanding (·.principalPortion) history periodEnd)
        (fun window =>
          ∑ day ∈ Finset.Icc window.firstDay.dayNumber window.lastDay.dayNumber
              with loan.disbursementDate.dayNumber ≤ day,
            balanceAt loan.principalOutstanding (·.principalPortion) history periodEnd day)
        (fun window =>
          repaidOn (·.principalPortion) history fun day =>
            (window.firstDay ≤ day ∧ day ≤ window.lastDay) ∧ loan.disbursementDate ≤ day)
        window transactions := by
  intro balance balanceSettled exact
  have days := whole.first_le_last
  have boundary := window.dayNumber_boundary loan.disbursementDate
  have before : loan.disbursementDate.dayNumber < window.lastDay.dayNumber := by
    rw [Loan.startsAfter, decide_eq_false_iff_not] at running
    exact Int.not_le.mp running
  obtain ⟨weightedSum, repaid, opening, month, _, sumValue, repaidValue, openingSettled,
    openingValue⟩ :=
    dailyRule_exact balanceSettled settled within (by omega) following answer exact range
  refine ⟨⟨weightedSum, repaid⟩, opening, month .weightedSum places, sumValue, repaidValue,
    openingSettled, ?_⟩
  intro earlier
  have first : loan.disbursementDate.dayNumber < window.firstDay.dayNumber := earlier
  rw [openingValue]
  congr 1
  omega

/-- The daily mode reports, oldest month first, the sum of the balances at the end of every day of
the month on which the loan is running, each of which is today's principal and all that is repaid
of it after the day, and the principal repaid on these days; both are zero for the months before.
Every month is rebuilt by the daily rule from the exact balance at its end.
-/
theorem build_daily (product : LoanProduct) (averaging : builder.averaging = .weightedSum)
    (reports : builder.source.Reports loan.id history)
    (settled : loan.principalOutstanding.Settled)
    (places : ∀ t ∈ history, t.principalPortion.Settled)
    (range
      : loan.EveryAnswer builder.source log builder.period.windows
          fun window transactions =>
            DailyInRange window loan.disbursementDate
              (balanceAt loan.principalOutstanding (·.principalPortion) history
                builder.period.toDate)
              transactions)
    : ∃ series,
        (builder.build loan product .daily).runAfter log
          = (.ok series, log ++ loan.requestsIn builder.period.windows)
        ∧ series.outstanding.map (·.toRat)
          = (builder.period.windows.reverse.map fun window =>
              if window.lastDay ≤ loan.disbursementDate then 0
              else
                ∑ day ∈ Finset.Icc window.firstDay.dayNumber window.lastDay.dayNumber
                    with loan.disbursementDate.dayNumber ≤ day,
                  (loan.principalOutstanding.toRat
                    + repaidOn (·.principalPortion) history
                        fun date => day < date.dayNumber ∧ date ≤ builder.period.toDate))
        ∧ series.repayments.map (·.toRat)
          = (builder.period.windows.reverse.map fun window =>
              if window.lastDay ≤ loan.disbursementDate then 0
              else
                repaidOn (·.principalPortion) history
                  fun day =>
                    (window.firstDay ≤ day ∧ day ≤ window.lastDay)
                    ∧ loan.disbursementDate ≤ day) := by
  have months := builder.period.monthsBackFrom_windows
  obtain ⟨series, built, outstanding, repayments⟩ :=
    build_exact product .daily reports settled balanceAt_end.symm
      (range.of_reports reports fun window member running transactions content inRange => by
        obtain ⟨whole, within⟩ := months.forall_mem member
        obtain ⟨follower, following⟩ := ChargePeriod.exists_next?_lastDay member
        rw [rule, averaging]
        exact dailyRule_rebuilds places whole within running following content inRange)
  have idle (window : MonthWindow)
      : loan.startsAfter window = true ↔ window.lastDay ≤ loan.disbursementDate :=
    decide_eq_true_iff
  refine ⟨series, built, ?_, ?_⟩
  · rw [outstanding, Loan.valuesIn]
    simp only [idle]
    rfl
  · rw [repayments, Loan.valuesIn]
    simp only [idle]

/-- The daily balances of the sample loan. -/
theorem build_daily_sample
    : let builder : SummaryBuilder := ⟨Sample.quarter, Sample.ledger.source, .weightedSum, 2⟩
      builder.source.Reports Sample.loan.id Sample.transactions
      ∧ Sample.loan.principalOutstanding.Settled
      ∧ (∀ t ∈ Sample.transactions, t.principalPortion.Settled)
      ∧ ∃ series,
          (builder.build Sample.loan Sample.product .daily).runAfter []
            = (.ok series, Sample.loan.requestsIn Sample.quarter.windows)
          ∧ series.outstanding.map (·.toRat)
            = [0, 5 * 955.5 + 10 * 835.5, 30 * 835.5 + 800]
          ∧ series.repayments.map (·.toRat) = [0, 120, 35.5] := by
  have settled : Sample.loan.principalOutstanding.Settled := by decide +kernel
  have places : ∀ t ∈ Sample.transactions, t.principalPortion.Settled := by decide +kernel
  obtain ⟨series, built, outstanding, repayments⟩ :=
    @build_daily ⟨Sample.quarter, Sample.ledger.source, .weightedSum, 2⟩ Sample.loan
      Sample.transactions [] Sample.product rfl Sample.reports settled places
      (Loan.dailyInRange_of_turnover Sample.reports (by decide +kernel))
  refine ⟨Sample.reports, settled, places, series, built, ?_, ?_⟩
  · rw [outstanding]
    decide +kernel
  · rw [repayments]
    decide +kernel

end Daily

end SummaryBuilder

end ChargeBasis

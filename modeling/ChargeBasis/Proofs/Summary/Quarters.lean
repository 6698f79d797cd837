import ChargeBasis.Proofs.Period.Quarters
import ChargeBasis.Proofs.Summary.Failures
import ChargeBasis.Proofs.Summary.Modes

/-!
A year and its quarters. The walks back through a year and through its last quarter start alike, and
what is repaid in a month does not depend on the balance that a walk comes with, so that the
repayments of the year are those of its quarters. The balances of an earlier quarter are rebuilt
from today's as if nothing had been repaid later; in the year they are higher by what was.
-/

namespace ChargeBasis

-----------------------------------------------------------------------------------------
-- Walks over the same months
-----------------------------------------------------------------------------------------

/-- What the source answers for a loan does not depend on the requests before. -/
def TransactionSource.Steady (source : TransactionSource) (loan : LoanId) : Prop :=
  ∀ log other first last,
    source.answer log ⟨loan, first, last⟩ = source.answer other ⟨loan, first, last⟩

/-- What the rule reports as repaid in a month does not depend on the balance. -/
def MonthRule.RepaysAlike (rule : MonthRule) : Prop :=
  ∀ window balance other transactions figures otherFigures opening otherOpening,
    rule window balance transactions = .ok (figures, opening)
    → rule window other transactions = .ok (otherFigures, otherOpening)
    → figures.repaid = otherFigures.repaid

theorem monthlyRule_repaysAlike
    : monthlyRule.RepaysAlike := by
  intro window balance other transactions figures otherFigures opening otherOpening first second
  simp only [monthlyRule, Except.bind_eq_ok_iff, Except.liftM_overflow,
    Except.mapError_eq_ok_iff] at first second
  obtain ⟨repaid, summed, _, _, same⟩ := first
  obtain ⟨otherRepaid, otherSummed, _, _, otherSame⟩ := second
  cases same
  cases otherSame
  exact Except.ok.inj (summed.symm.trans otherSummed)

theorem dailyRule_repaysAlike (policy : AveragingPolicy) (places : Nat) (disbursement : Date)
    : (dailyRule policy places disbursement).RepaysAlike := by
  intro window balance other transactions figures otherFigures opening otherOpening first second
  simp only [dailyRule, Except.bind_eq_ok_iff, Except.liftM_overflow, Except.liftM_failed,
    Except.mapError_eq_ok_iff] at first second
  obtain ⟨all, listed, repaid, summed, _, _, _, _, same⟩ := first
  obtain ⟨otherAll, otherListed, otherRepaid, otherSummed, _, _, _, _, otherSame⟩ := second
  cases same
  cases otherSame
  cases listed.symm.trans otherListed
  exact Except.ok.inj (summed.symm.trans otherSummed)

theorem SummaryBuilder.rule_repaysAlike (builder : SummaryBuilder) (loan : Loan)
    (mode : SummaryMode)
    : (builder.rule loan mode).RepaysAlike := by
  cases mode with
  | monthly => exact monthlyRule_repaysAlike
  | daily => exact dailyRule_repaysAlike _ _ _

/-- An amount is reported as repaid in a month, in some walk. -/
def Loan.Reported (loan : Loan) (source : TransactionSource) (rule : MonthRule)
    (window : MonthWindow) (repaid : Money)
    : Prop :=
  loan.startsAfter window = true ∧ repaid = .zero
  ∨ loan.startsAfter window = false
    ∧ ∃ log balance transactions figures opening,
        source.answer log (loan.fetchIn window) = .ok transactions
        ∧ rule window balance transactions = .ok (figures, opening)
        ∧ repaid = figures.repaid

section Walks

variable {source : TransactionSource} {rule : MonthRule} {loan : Loan}
  {windows front back : List MonthWindow} {balance : Money}
  {log after otherLog otherAfter : FetchLog} {figures first : List MonthFigures}

/-- All walks report the same amount for a month. -/
theorem Loan.reported_unique (steady : source.Steady loan.id) (alike : rule.RepaysAlike)
    : Relator.RightUnique (loan.Reported source rule) := by
  intro window repaid other one two
  rcases one with ⟨idle, rfl⟩ | ⟨running, log, _, _, _, _, answer, summed, rfl⟩
  · rcases two with ⟨_, rfl⟩ | ⟨running, _⟩
    · rfl
    · rw [idle] at running
      cases running
  · rcases two with ⟨idle, _⟩ | ⟨_, otherLog, _, _, _, _, otherAnswer, otherSummed, rfl⟩
    · rw [idle] at running
      cases running
    · have same := (steady log otherLog window.firstDay window.lastDay).symm.trans answer
      cases otherAnswer.symm.trans same
      exact alike _ _ _ _ _ _ _ _ summed otherSummed

/-- A walk reports what is reported for each of its months, by induction over them. -/
theorem reported_of_summarise
    (h : (summarise source rule loan windows balance).runAfter log = (.ok figures, after))
    : List.Forall₂ (loan.Reported source rule) windows (figures.map (·.repaid)) := by
  induction windows generalizing balance log figures with
  | nil =>
      cases h
      exact .nil
  | cons window earlier ih =>
      obtain ⟨month, rest, opening, between, rfl, walk, cause⟩ := exists_of_summarise_cons h
      refine .cons ?_ (ih walk)
      rcases cause with ⟨idle, rfl, _⟩ | ⟨running, _, transactions, answer, summed⟩
      · exact .inl ⟨idle, rfl⟩
      · exact .inr ⟨running, log, balance, transactions, month, opening, answer, summed, rfl⟩

/-- A walk over more months starts with the figures of the walk over the first of them, by induction
over these.
-/
theorem exists_of_summarise_append (steady : source.Steady loan.id)
    (h : (summarise source rule loan (front ++ back) balance).runAfter log = (.ok figures, after))
    (walk
      : (summarise source rule loan front balance).runAfter otherLog = (.ok first, otherAfter))
    : ∃ rest, figures = first ++ rest := by
  induction front generalizing balance log otherLog figures first with
  | nil =>
      cases walk
      exact ⟨figures, rfl⟩
  | cons window earlier ih =>
      cases running : loan.startsAfter window with
      | true =>
          obtain ⟨tail, rfl, longer⟩ := exists_of_summarise_idle running h
          obtain ⟨otherTail, rfl, shorter⟩ := exists_of_summarise_idle running walk
          obtain ⟨rest, rfl⟩ := ih longer shorter
          exact ⟨rest, rfl⟩
      | false =>
          obtain ⟨_, month, opening, tail, rfl, answer, summed, longer⟩ :=
            exists_of_summarise_running running h
          obtain ⟨_, _, _, otherTail, rfl, otherAnswer, otherSummed, shorter⟩ :=
            exists_of_summarise_running running walk
          have again := (steady log otherLog window.firstDay window.lastDay).symm.trans answer
          cases otherAnswer.symm.trans again
          cases summed.symm.trans otherSummed
          obtain ⟨rest, rfl⟩ := ih longer shorter
          exact ⟨rest, rfl⟩

end Walks

-----------------------------------------------------------------------------------------
-- Balances in a year
-----------------------------------------------------------------------------------------

/-- Rebuilt from the end of a longer period a balance is higher by what is repaid after the end of
the shorter one.
-/
theorem balanceAt_later {closing : Money} {amount : LoanTransaction → Money}
    {history : List LoanTransaction} {first last : Date} {day : Int}
    (ordered : day ≤ first.dayNumber) (within : first ≤ last)
    : balanceAt closing amount history last day
      = balanceAt closing amount history first day
        + repaidOn amount history fun date => first < date ∧ date ≤ last := by
  have end_of_first
      : balanceAt closing amount history last first.dayNumber
        = closing.toRat + repaidOn amount history fun date => first < date ∧ date ≤ last :=
    rfl
  rw [balanceAt_earlier ordered within, end_of_first, balanceAt]
  ring

/-- Of the months of a gapless list the ones behind are over before the ones in front start. -/
theorem MonthWindow.MonthsBackFrom.before {last : Int} {later earlier : List MonthWindow}
    (months : MonthsBackFrom last (later ++ earlier)) {window previous : MonthWindow}
    (front : window ∈ later) (behind : previous ∈ earlier)
    : previous.lastDay.dayNumber < window.firstDay.dayNumber := by
  induction later generalizing last with
  | nil => cases front
  | cons head rest ih =>
      obtain ⟨_, _, tail⟩ := months
      rcases List.mem_cons.mp front with rfl | front
      · have bound := (tail.forall_mem (List.mem_append_right rest behind)).2
        omega
      · exact ih tail front

/-- What is repaid in the months after one is what is repaid after its last day, by induction over
these months.
-/
theorem sum_repaidOn_months {amount : LoanTransaction → Money}
    {history : List LoanTransaction} {last : Int} {later earlier : List MonthWindow}
    {window : MonthWindow}
    (months : MonthWindow.MonthsBackFrom last (later ++ window :: earlier))
    : (later.map fun w =>
        repaidOn amount history fun day => w.firstDay ≤ day ∧ day ≤ w.lastDay).sum
      = repaidOn amount history fun day => window.lastDay < day ∧ day.dayNumber ≤ last := by
  induction later generalizing last with
  | nil =>
      have ends := months.2.1
      have nothing
          : repaidOn amount history (fun day => window.lastDay < day ∧ day.dayNumber ≤ last)
            = repaidOn amount history fun _ => False := by
        apply repaidOn_congr
        intro t _ _
        refine ⟨?_, False.elim⟩
        intro days
        have after : window.lastDay.dayNumber < t.date.dayNumber := days.1
        omega
      rw [nothing]
      simp [repaidOn]
  | cons head rest ih =>
      obtain ⟨whole, ends, tail⟩ := months
      have member : window ∈ rest ++ window :: earlier := by simp
      have bound := (tail.forall_mem member).2
      have length := whole.first_le_last
      rw [List.map_cons, List.sum_cons, ih tail, add_comm]
      symm
      apply repaidOn_union
      · intro day
        change window.lastDay.dayNumber < day.dayNumber ∧ day.dayNumber ≤ last
          ↔ (window.lastDay.dayNumber < day.dayNumber
              ∧ day.dayNumber ≤ head.firstDay.dayNumber - 1)
            ∨ (head.firstDay.dayNumber ≤ day.dayNumber
              ∧ day.dayNumber ≤ head.lastDay.dayNumber)
        omega
      · intro day days
        obtain ⟨⟨_, upper⟩, lower, _⟩ := days
        have above : head.firstDay.dayNumber ≤ day.dayNumber := lower
        omega

/-- From the end of a longer period a mode reports more for a month by what is repaid after the
shorter one, once for every day that counts.
-/
theorem SummaryMode.sum_balances_later (mode : SummaryMode) (loan : Loan)
    (history : List LoanTransaction) {window : MonthWindow} {first last : Date}
    (inside : window.lastDay ≤ first) (within : first ≤ last)
    : ∑ day ∈ mode.daysCounted loan window, mode.balances loan history last day
      = ∑ day ∈ mode.daysCounted loan window, mode.balances loan history first day
        + repaidOn mode.amount history (fun date => first < date ∧ date ≤ last)
          * (mode.daysCounted loan window).card := by
  have shifted
      : ∀ day ∈ mode.daysCounted loan window,
          mode.balances loan history last day
          = mode.balances loan history first day
            + repaidOn mode.amount history fun date => first < date ∧ date ≤ last :=
    fun day member => balanceAt_later ((le_of_mem_daysCounted member).trans inside) within
  rw [Finset.sum_congr rfl shifted, Finset.sum_add_distrib, Finset.sum_const, nsmul_eq_mul,
    mul_comm]

-----------------------------------------------------------------------------------------
-- Five series
-----------------------------------------------------------------------------------------

/-- The builder for another period. -/
def SummaryBuilder.over (builder : SummaryBuilder) (period : ChargePeriod) : SummaryBuilder :=
  { builder with period }

namespace SummaryBuilder

section Year

variable {builder : SummaryBuilder} {loan : Loan} {product : LoanProduct} {mode : SummaryMode}
  {year : Int32} {periods : BillingPeriod → ChargePeriod} {logs : BillingPeriod → FetchLog}
  {series : BillingPeriod → BalanceSeries}

/-- The repayments of a year are those of its quarters and its last balances those of the last
quarter, if the source answers the same request in the same way each time.
-/
theorem yearly_of_quarterly (steady : builder.source.Steady loan.id)
    (found : ∀ period, BillingPeriod.inYear period year = .ok (periods period))
    (built
      : ∀ period,
          ∃ after,
            (((builder.over (periods period)).build loan product mode).runAfter (logs period))
              = (.ok (series period), after))
    : (series .yearly).repayments
        = Quarter.all.flatMap (fun quarter => (series (.quarterly quarter)).repayments)
      ∧ (series .yearly).outstanding.drop 9 = (series (.quarterly .q4)).outstanding := by
  choose after built using built
  choose figures walk same using fun period => exists_figures (built period)
  have alike := builder.rule_repaysAlike loan mode
  constructor
  · have reported (period : BillingPeriod) := reported_of_summarise (walk period)
    have quarterly (quarters : List Quarter)
        : List.Forall₂ (loan.Reported builder.source (builder.rule loan mode))
            (quarters.flatMap fun quarter => (periods (.quarterly quarter)).windows)
            (quarters.flatMap fun quarter =>
              (figures (.quarterly quarter)).map (·.repaid)) := by
      induction quarters with
      | nil => exact .nil
      | cons quarter rest ih => exact List.rel_append (reported _) ih
    have yearly := reported .yearly
    change List.Forall₂ _ (periods .yearly).windows _ at yearly
    rw [ChargePeriod.windows_yearly found] at yearly
    have repaid :=
      List.right_unique_forall₂' (Loan.reported_unique steady alike) yearly (quarterly _)
    simp only [same, BalanceSeries.ofFigures, repaid, List.reverse_flatMap, List.reverse_reverse]
    rfl
  · obtain ⟨earlier, split, length⟩ := ChargePeriod.exists_windows_yearly found .q4
    have windows
        : (periods .yearly).windows = (periods (.quarterly .q4)).windows ++ earlier := by
      rw [split]
      rfl
    have yearly := walk .yearly
    change (summarise builder.source (builder.rule loan mode) loan (periods .yearly).windows
      (mode.closingBalance loan)).runAfter _ = _ at yearly
    rw [windows] at yearly
    obtain ⟨rest, together⟩ := exists_of_summarise_append steady yearly (walk (.quarterly .q4))
    have whole := (length_of_summarise yearly).trans (by rw [List.length_append, length])
    have part := length_of_summarise (walk (.quarterly .q4))
    have behind : rest.length = 9 := by
      rw [together, List.length_append, part] at whole
      exact Nat.add_left_cancel whole
    simp only [same, BalanceSeries.ofFigures, together, List.map_append, List.reverse_append]
    exact List.drop_left' (by simp [behind])

/-- What the later quarters report together is what is repaid after the end of a quarter, provided
that the loan is running in it.
-/
theorem sum_later_repayments {history : List LoanTransaction}
    (found : ∀ period, BillingPeriod.inYear period year = .ok (periods period))
    (repayments
      : ∀ period,
          (series period).repayments.map (·.toRat)
          = loan.valuesIn (fun window => repaidOn mode.amount history (mode.RepaysOn loan window))
              (periods period).windows.reverse)
    {quarter : Quarter} {window : MonthWindow}
    (member : window ∈ (periods (.quarterly quarter)).windows)
    (running : loan.disbursementDate < window.lastDay)
    : ((quarter.later.flatMap fun later => (series (.quarterly later)).repayments).map
        Money.toRat).sum
      = repaidOn mode.amount history fun date =>
          (periods (.quarterly quarter)).toDate < date ∧ date ≤ (periods .yearly).toDate := by
  obtain ⟨earlier, split, _⟩ := ChargePeriod.exists_windows_yearly found quarter
  have months := (periods .yearly).monthsBackFrom_windows
  rw [split, List.append_assoc] at months
  -- every later month is one in which the loan is running from the first day on
  have full
      : ∀ w ∈ quarter.later.reverse.flatMap fun later => (periods (.quarterly later)).windows,
          (if loan.startsAfter w then 0
            else repaidOn mode.amount history (mode.RepaysOn loan w))
          = repaidOn mode.amount history fun day => w.firstDay ≤ day ∧ day ≤ w.lastDay := by
    intro w later
    have behind := months.before later (List.mem_append_left _ member)
    have whole := (months.forall_mem (List.mem_append_left _ later)).1.first_le_last
    have start : loan.disbursementDate.dayNumber < window.lastDay.dayNumber := running
    have disbursed : loan.disbursementDate < w.firstDay := Int.lt_trans start behind
    have active : ¬ w.lastDay ≤ loan.disbursementDate := by
      change ¬ w.lastDay.dayNumber ≤ loan.disbursementDate.dayNumber
      omega
    rw [Loan.startsAfter, decide_eq_false active, mode.repaidOn_of_disbursed disbursed]
    rfl
  have reported
      : ((quarter.later.flatMap fun later => (series (.quarterly later)).repayments).map
          Money.toRat).Perm
          ((quarter.later.reverse.flatMap fun later => (periods (.quarterly later)).windows).map
            fun w =>
              repaidOn mode.amount history fun day => w.firstDay ≤ day ∧ day ≤ w.lastDay) := by
    rw [← List.map_congr_left full, List.map_flatMap, List.map_flatMap]
    apply List.Perm.flatMap (List.reverse_perm _).symm
    intro later _
    rw [repayments, Loan.valuesIn_reverse]
    exact List.reverse_perm _
  obtain ⟨last, rest, windows, ends⟩ := (periods (.quarterly quarter)).exists_last_window
  rw [windows] at months
  rw [reported.sum_eq, sum_repaidOn_months months, ends]
  rfl

/-- A month of a quarter in which the loan is running has a higher balance in the year than in the
quarter: by what the later quarters report as repaid, once for every day that counts.
-/
theorem outstanding_yearly {history : List LoanTransaction}
    (found : ∀ period, BillingPeriod.inYear period year = .ok (periods period))
    (outstanding
      : ∀ period,
          (series period).outstanding.map (·.toRat)
          = loan.valuesIn
              (fun window =>
                ∑ day ∈ mode.daysCounted loan window,
                  mode.balances loan history (periods period).toDate day)
              (periods period).windows.reverse)
    (repayments
      : ∀ period,
          (series period).repayments.map (·.toRat)
          = loan.valuesIn (fun window => repaidOn mode.amount history (mode.RepaysOn loan window))
              (periods period).windows.reverse)
    {quarter : Quarter} {month : Nat} {window : MonthWindow}
    (place : (periods (.quarterly quarter)).windows.reverse[month]? = some window)
    (running : loan.disbursementDate < window.lastDay)
    : (periods .yearly).windows.reverse[3 * (quarter.id - 1) + month]? = some window
      ∧ ∃ yearly quarterly,
          (series .yearly).outstanding[3 * (quarter.id - 1) + month]? = some yearly
          ∧ (series (.quarterly quarter)).outstanding[month]? = some quarterly
          ∧ yearly.toRat
            = quarterly.toRat
              + ((quarter.later.flatMap fun later =>
                    (series (.quarterly later)).repayments).map Money.toRat).sum
                * (mode.daysCounted loan window).card := by
  obtain ⟨earlier, split, length⟩ := ChargePeriod.exists_windows_yearly found quarter
  have member : window ∈ (periods (.quarterly quarter)).windows :=
    List.mem_reverse.mp (List.mem_of_getElem? place)
  have yearPlace
      : (periods .yearly).windows.reverse[3 * (quarter.id - 1) + month]? = some window := by
    rw [split, List.reverse_append, List.getElem?_append_right (by simp [length]),
      List.length_reverse, length, Nat.add_sub_cancel_left, List.reverse_append,
      List.getElem?_append_left (List.getElem?_eq_some_iff.mp place).1, place]
  have active : loan.startsAfter window = false := decide_eq_false (Int.not_le.mpr running)
  obtain ⟨yearly, yearlyPlace, yearlyValue⟩ :=
    Loan.exists_reported (outstanding .yearly) yearPlace active
  obtain ⟨quarterly, quarterlyPlace, quarterlyValue⟩ :=
    Loan.exists_reported (outstanding (.quarterly quarter)) place active
  have inside := ((periods (.quarterly quarter)).monthsBackFrom_windows.forall_mem member).2
  have within := ChargePeriod.toDate_le_yearly found quarter
  refine ⟨yearPlace, yearly, quarterly, yearlyPlace, quarterlyPlace, ?_⟩
  rw [yearlyValue, quarterlyValue, mode.sum_balances_later loan history inside within,
    sum_later_repayments found repayments member running]

/-- By their values the repayments of a year are those of its quarters and its last balances those
of the last quarter, in whatever order the source answers.
-/
theorem yearly_values_of_quarterly {history : List LoanTransaction}
    (found : ∀ period, BillingPeriod.inYear period year = .ok (periods period))
    (outstanding
      : ∀ period,
          (series period).outstanding.map (·.toRat)
          = loan.valuesIn
              (fun window =>
                ∑ day ∈ mode.daysCounted loan window,
                  mode.balances loan history (periods period).toDate day)
              (periods period).windows.reverse)
    (repayments
      : ∀ period,
          (series period).repayments.map (·.toRat)
          = loan.valuesIn (fun window => repaidOn mode.amount history (mode.RepaysOn loan window))
              (periods period).windows.reverse)
    : (series .yearly).repayments.map (·.toRat)
        = (Quarter.all.flatMap fun quarter => (series (.quarterly quarter)).repayments).map
            (·.toRat)
      ∧ ((series .yearly).outstanding.drop 9).map (·.toRat)
        = (series (.quarterly .q4)).outstanding.map (·.toRat) := by
  constructor
  · rw [repayments, ChargePeriod.windows_yearly found, List.map_flatMap, List.reverse_flatMap,
      List.reverse_reverse, Loan.valuesIn, List.map_flatMap]
    exact List.flatMap_congr fun quarter _ => (repayments (.quarterly quarter)).symm
  · obtain ⟨earlier, split, length⟩ := ChargePeriod.exists_windows_yearly found .q4
    have windows
        : (periods .yearly).windows = (periods (.quarterly .q4)).windows ++ earlier := split
    rw [List.map_drop, outstanding, outstanding, ChargePeriod.toDate_yearly found, windows,
      List.reverse_append, Loan.valuesIn, List.map_append]
    exact List.drop_left' (by rw [List.length_map, List.length_reverse, length]; rfl)

/-- A year and its quarters agree. Where none of the five series overflows, they all exist. If the
source answers the same request in the same way each time, the repayments of the year are those of
its quarters one after the other and its last three balances those of the last quarter. If all
values are exact, that holds of the values however the source answers, and for every month of a
quarter in which the loan is running the balance of the year is that of the quarter and, once for
every day that the mode counts, what the later quarters report as repaid. That is once in the
monthly mode, and in the daily mode, which is to report weighted sums, once for each day of the
month on which the loan is running.
-/
theorem build_yearly_quarterly (builder : SummaryBuilder) (loan : Loan) (product : LoanProduct)
    (mode : SummaryMode) {history : List LoanTransaction} (logs : BillingPeriod → FetchLog)
    (found : ∀ period, BillingPeriod.inYear period year = .ok (periods period))
    (reports : builder.source.Reports loan.id history)
    (fits
      : ∀ period kind,
          (((builder.over (periods period)).build loan product mode).runAfter (logs period)).1
          ≠ .error (.overflowed kind))
    : ∃ series : BillingPeriod → BalanceSeries,
        (∀ period,
          (((builder.over (periods period)).build loan product mode).runAfter (logs period)).1
          = .ok (series period))
        ∧ (builder.source.Steady loan.id
          → (series .yearly).repayments
              = Quarter.all.flatMap (fun quarter => (series (.quarterly quarter)).repayments)
            ∧ (series .yearly).outstanding.drop 9 = (series (.quarterly .q4)).outstanding)
        ∧ ((mode = .daily → builder.averaging = .weightedSum)
          → (mode.closingBalance loan).Settled
          → (∀ t ∈ history, (mode.amount t).Settled)
          → (∀ period,
              loan.EveryAnswer builder.source (logs period) (periods period).windows
                (mode.InRange loan history (periods period).toDate))
          → (series .yearly).repayments.map (·.toRat)
              = (Quarter.all.flatMap fun quarter =>
                  (series (.quarterly quarter)).repayments).map (·.toRat)
            ∧ ((series .yearly).outstanding.drop 9).map (·.toRat)
              = (series (.quarterly .q4)).outstanding.map (·.toRat)
            ∧ ∀ quarter month window,
                (periods (.quarterly quarter)).windows.reverse[month]? = some window
                → loan.disbursementDate < window.lastDay
                → (periods .yearly).windows.reverse[3 * (quarter.id - 1) + month]? = some window
                  ∧ ∃ yearly quarterly,
                      (series .yearly).outstanding[3 * (quarter.id - 1) + month]? = some yearly
                      ∧ (series (.quarterly quarter)).outstanding[month]? = some quarterly
                      ∧ yearly.toRat
                        = quarterly.toRat
                          + ((quarter.later.flatMap fun later =>
                                (series (.quarterly later)).repayments).map (·.toRat)).sum
                            * (mode.daysCounted loan window).card) := by
  choose series after built using fun period =>
    @exists_series (builder.over (periods period)) loan product mode (logs period) history reports
      (fits period)
  refine ⟨series, fun period => by rw [built], fun steady => ?_, ?_⟩
  · exact yearly_of_quarterly steady found fun period => ⟨after period, built period⟩
  · intro averaging settled places range
    -- the exact series are the ones at hand
    have exact (period : BillingPeriod)
        : (series period).outstanding.map (·.toRat)
            = loan.valuesIn
                (fun window =>
                  ∑ day ∈ mode.daysCounted loan window,
                    mode.balances loan history (periods period).toDate day)
                (periods period).windows.reverse
          ∧ (series period).repayments.map (·.toRat)
            = loan.valuesIn
                (fun window => repaidOn mode.amount history (mode.RepaysOn loan window))
                (periods period).windows.reverse := by
      obtain ⟨_, again, outstanding, repayments⟩ :=
        @build_in_mode (builder.over (periods period)) loan history mode (logs period) product
          averaging reports settled places (range period)
      obtain ⟨same, _⟩ := Prod.mk.inj ((built period).symm.trans again)
      cases same
      exact ⟨outstanding, repayments⟩
    have outstanding (period : BillingPeriod) := (exact period).1
    have repayments (period : BillingPeriod) := (exact period).2
    obtain ⟨repaid, last⟩ := yearly_values_of_quarterly found outstanding repayments
    exact ⟨repaid, last, fun _ _ _ place running =>
      outstanding_yearly found outstanding repayments place running⟩

end Year

end SummaryBuilder

namespace Sample

/-- The billing periods of the sample year. -/
def periodOf (period : BillingPeriod) : ChargePeriod where
  period := period
  year := 2024
  fromDate := day period.firstMonth 1 ⟨by decide, period.firstMonth.length_pos _⟩
  toDate := day period.lastMonth (period.lastMonth.lengthIn 2024)
    ⟨period.lastMonth.length_pos _, le_refl _⟩
  fromDate_eq := BillingPeriod.fromDate_eq_ok_iff.mpr ⟨by decide, rfl, rfl, rfl⟩
  toDate_eq := BillingPeriod.toDate_eq_ok_iff.mpr ⟨by decide, rfl, rfl, rfl⟩
  fromDate_lt := Date.dayNumber_lt_of_month_lt rfl period.firstMonth_lt_lastMonth

theorem steady
    : ledger.source.Steady loan.id :=
  fun _ _ _ _ => rfl

end Sample

/-- The balance of the sample loan in February, when it runs for 15 days, in the year and in the
first quarter.
-/
theorem SummaryBuilder.build_yearly_quarterly_sample
    : let builder : SummaryBuilder := ⟨Sample.quarter, Sample.ledger.source, .weightedSum, 2⟩
      (∀ period, BillingPeriod.inYear period 2024 = .ok (Sample.periodOf period))
      ∧ builder.source.Reports Sample.loan.id Sample.transactions
      ∧ builder.source.Steady Sample.loan.id
      ∧ (∀ period kind,
          (((builder.over (Sample.periodOf period)).build Sample.loan Sample.product
              .daily).runAfter []).1
          ≠ .error (.overflowed kind))
      ∧ Sample.loan.principalOutstanding.Settled
      ∧ (∀ t ∈ Sample.transactions, t.principalPortion.Settled)
      ∧ (∀ period,
          Sample.loan.EveryAnswer Sample.ledger.source [] (Sample.periodOf period).windows
            (SummaryMode.daily.InRange Sample.loan Sample.transactions
              (Sample.periodOf period).toDate))
      ∧ ∃ series : BillingPeriod → BalanceSeries,
          (series .yearly).repayments
            = Quarter.all.flatMap (fun quarter => (series (.quarterly quarter)).repayments)
          ∧ ∃ yearly quarterly,
              (series .yearly).outstanding[1]? = some yearly
              ∧ (series (.quarterly .q1)).outstanding[1]? = some quarterly
              ∧ yearly.toRat
                = quarterly.toRat
                  + (([.q2, .q3, .q4].flatMap fun later =>
                        (series (.quarterly later)).repayments).map (·.toRat)).sum * 15 := by
  intro builder
  have found (period : BillingPeriod)
      : BillingPeriod.inYear period 2024 = .ok (Sample.periodOf period) :=
    (Sample.periodOf period).inYear_self
  have settled : Sample.loan.principalOutstanding.Settled := by decide +kernel
  have places : ∀ t ∈ Sample.transactions, t.principalPortion.Settled := by decide +kernel
  have range (period : BillingPeriod)
      : Sample.loan.EveryAnswer Sample.ledger.source [] (Sample.periodOf period).windows
          (SummaryMode.daily.InRange Sample.loan Sample.transactions
            (Sample.periodOf period).toDate) :=
    Loan.dailyInRange_of_turnover Sample.reports (by decide +kernel)
  have fits (period : BillingPeriod) (kind : Overflow)
      : (((builder.over (Sample.periodOf period)).build Sample.loan Sample.product
            .daily).runAfter []).1
        ≠ .error (.overflowed kind) := by
    obtain ⟨_, built, _⟩ :=
      @SummaryBuilder.build_in_mode (builder.over (Sample.periodOf period)) Sample.loan
        Sample.transactions .daily [] Sample.product (fun _ => rfl) Sample.reports settled places
        (range period)
    rw [built]
    nofun
  obtain ⟨series, _, exact, values⟩ :=
    SummaryBuilder.build_yearly_quarterly builder Sample.loan Sample.product .daily (fun _ => [])
      found Sample.reports fits
  obtain ⟨_, _, shifted⟩ := values (fun _ => rfl) settled places range
  have february
      : (Sample.periodOf (.quarterly .q1)).windows.reverse[1]?
        = some
            ⟨Sample.day .february 1 (by decide), Sample.day .february 29 (by decide)⟩ := by
    decide +kernel
  obtain ⟨_, yearly, quarterly, yearlyPlace, quarterlyPlace, value⟩ :=
    shifted .q1 1 _ february (by decide)
  have days
      : (SummaryMode.daily.daysCounted Sample.loan
          ⟨Sample.day .february 1 (by decide), Sample.day .february 29 (by decide)⟩).card
        = 15 := by
    decide +kernel
  rw [days] at value
  exact ⟨found, Sample.reports, Sample.steady, fits, settled, places, range, series,
    (exact Sample.steady).1, yearly, quarterly, yearlyPlace, quarterlyPlace, value⟩

namespace Sample

/-- Three repayments on the last day of the year: a great one, and two so small that each of them is
cut off when it is added to the great one.
-/
def decemberRepayments : List LoanTransaction :=
  let great : Money := ⟨⟨false, 792281625142643375936, 0, by decide, Nat.zero_le _⟩⟩
  let small : Money :=
    ⟨⟨false, 4, Money.workingPlaces, by decide, Money.workingPlaces_le_maxScale⟩⟩
  [great, small, small].map fun paid => .repayment 7 (day .december 31 (by decide)) paid paid

/-- A source that lists what it answers from the other end once it was asked before. -/
def turning : TransactionSource :=
  ⟨fun log request =>
    let listed := decemberRepayments.filter fun t =>
      request.first ≤ t.date ∧ t.date ≤ request.last
    .ok (if log.isEmpty then listed else listed.reverse)⟩

theorem reports_turning
    : turning.Reports loan.id decemberRepayments := by
  intro log first last
  refine ⟨_, rfl, ?_⟩
  split
  · exact .refl _
  · exact List.reverse_perm _

def turningBuilder : SummaryBuilder := ⟨quarter, turning, .weightedSum, 2⟩

/-- The requests before each of five series, of which that of the year is built first. -/
def requestsBefore (period : BillingPeriod) : FetchLog :=
  if period = .yearly then [] else loan.requestsIn (periodOf .yearly).windows

/-- What each of the five series has as repaid: the year cuts off both small repayments, the last
quarter adds them up before the great one.
-/
def decemberReport (period : BillingPeriod) : List ℚ :=
  if period = .yearly then [0, 0, 0, 0, 0, 0, 0, 0, 0, 0, 0, 792281625142643375936]
  else if period = .quarterly .q4 then [0, 0, 792281625142643375936 + 1 / 10 ^ 7]
  else [0, 0, 0]

theorem map_build_turning (period : BillingPeriod)
    : (((turningBuilder.over (periodOf period)).build loan product .monthly).runAfter
          (requestsBefore period)).1.map
        (fun series => series.repayments.map (·.toRat))
      = .ok (decemberReport period) := by
  cases period with
  | yearly => decide +kernel
  | quarterly quarter => cases quarter <;> decide +kernel

end Sample

/-- A source need not answer in the same order every time, and without a bound on the amounts the
order decides what is cut off: of the three repayments of December the year reports
792281625142643375936.0000000, with the great one listed first, and the last quarter
792281625142643375936.0000001, with the great one listed last.
-/
theorem SummaryBuilder.not_forall_yearly_quarterly
    : ¬ ∀ (builder : SummaryBuilder) (loan : Loan) (product : LoanProduct) (mode : SummaryMode)
          (history : List LoanTransaction) (year : Int32) (periods : BillingPeriod → ChargePeriod)
          (logs : BillingPeriod → FetchLog) (series : BillingPeriod → BalanceSeries),
          (∀ period, BillingPeriod.inYear period year = .ok (periods period))
          → (mode = .daily → builder.averaging = .weightedSum)
          → builder.source.Reports loan.id history
          → (∀ period,
              (((builder.over (periods period)).build loan product mode).runAfter (logs period)).1
              = .ok (series period))
          → (series .yearly).repayments.map (·.toRat)
              = (Quarter.all.flatMap fun quarter =>
                  (series (.quarterly quarter)).repayments).map (·.toRat)
            ∧ ((series .yearly).outstanding.drop 9).map (·.toRat)
              = (series (.quarterly .q4)).outstanding.map (·.toRat) := by
  intro always
  choose series built repaid using fun period =>
    Except.map_eq_ok_iff.mp (Sample.map_build_turning period)
  obtain ⟨same, _⟩ :=
    always Sample.turningBuilder Sample.loan Sample.product .monthly Sample.decemberRepayments 2024
      Sample.periodOf Sample.requestsBefore series
      (fun period => (Sample.periodOf period).inYear_self) nofun Sample.reports_turning built
  simp only [List.map_flatMap, repaid] at same
  exact absurd same (by decide +kernel)

end ChargeBasis

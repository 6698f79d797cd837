import ChargeBasis.Proofs.Summary.Cache
import ChargeBasis.Proofs.Summary.ExactOperations
import ChargeBasis.Proofs.Summary.Failures

/-!
The safe range of a loan. If 31 times its balance and its turnover together are in range, every
operation behind its series is exact, whatever the averaging and the order in which the source
reports, and a month adds no more than that bound to the sums over loans and months.
-/

namespace ChargeBasis

open Operation

-----------------------------------------------------------------------------------------
-- One month
-----------------------------------------------------------------------------------------

/-- For the transactions of a month, starting from the exact balance at its end, the rule makes only
exact operations, reports figures within a bound and goes on with the exact balance at the end of
the month before. In the month of the disbursement there is nothing to go on with.
-/
def MonthRule.Safe (rule : MonthRule)
    (operations : MonthWindow → Money → List LoanTransaction → List Operation) (loan : Loan)
    (balances : Int → ℚ) (bound : ℚ) (window : MonthWindow) (transactions : List LoanTransaction)
    : Prop :=
  ∀ balance : Money,
    balance.Settled
    → balance.toRat = balances window.lastDay.dayNumber
    → (∀ operation ∈ operations window balance transactions, operation.Exact)
      ∧ ∀ figures opening,
          rule window balance transactions = .ok (figures, opening)
          → |figures.outstanding.toRat| ≤ bound
            ∧ |figures.repaid.toRat| ≤ bound
            ∧ opening.Settled
            ∧ (loan.disbursementDate < window.firstDay
                → opening.toRat = balances (window.firstDay.dayNumber - 1))

/-- The balances of the days of a month add up to no more than 31 times a bound of them. -/
theorem MonthWindow.Whole.abs_sum_balances_le {window : MonthWindow} (whole : window.Whole)
    {balances : Int → ℚ} {bound : ℚ} (bounded : ∀ day, |balances day| ≤ bound)
    (days : Int → Prop) [DecidablePred days]
    : |∑ day ∈ Finset.Icc window.firstDay.dayNumber window.lastDay.dayNumber with days day,
          balances day|
      ≤ 31 * bound := by
  have positive : 0 ≤ bound := (abs_nonneg _).trans (bounded 0)
  have length := whole.last_le
  have few
      : ({day ∈ Finset.Icc window.firstDay.dayNumber window.lastDay.dayNumber | days day}).card
        ≤ 31 := by
    refine (Finset.card_filter_le _ _).trans ?_
    rw [Int.card_Icc]
    omega
  calc |∑ day ∈ Finset.Icc window.firstDay.dayNumber window.lastDay.dayNumber with days day,
          balances day|
      ≤ ∑ day ∈ Finset.Icc window.firstDay.dayNumber window.lastDay.dayNumber with days day,
          |balances day| := Finset.abs_sum_le_sum_abs _ _
    _ ≤ ({day ∈ Finset.Icc window.firstDay.dayNumber window.lastDay.dayNumber | days day}).card
          • bound := Finset.sum_le_card_nsmul _ _ _ fun day _ => bounded day
    _ ≤ 31 * bound := by
      rw [nsmul_eq_mul]
      exact mul_le_mul_of_nonneg_right (by exact_mod_cast few) positive

section Rules

variable {window : MonthWindow} {loan : Loan} {periodEnd : Date}
  {history transactions : List LoanTransaction} {bound : ℚ}

/-- The monthly rule is safe if 31 times today's balance and the turnover of the history are in
range; it would do with less.
-/
theorem monthlyRule_safe (places : ∀ t ∈ history, t.amount.Settled) (whole : window.Whole)
    (within : window.lastDay ≤ periodEnd)
    (answer
      : transactions.Perm
          (history.filter fun t => window.firstDay ≤ t.date ∧ t.date ≤ window.lastDay))
    (bounded
      : |loan.totalOutstanding.toRat| + turnover (·.amount) history ≤ bound)
    (range : 31 * bound ≤ Money.exactLimit)
    : monthlyRule.Safe (fun _ => monthlyOperations) loan
        (balanceAt loan.totalOutstanding (·.amount) history periodEnd) (31 * bound) window
        transactions := by
  intro balance settled exact
  have balanceBound :=
    (abs_balanceAt_le loan.totalOutstanding (·.amount) history periodEnd
      window.lastDay.dayNumber).trans bounded
  have turnoverNonneg := turnover_nonneg (·.amount) history
  have positive := abs_nonneg loan.totalOutstanding.toRat
  have part := turnover_answer (·.amount) answer
  have inRange
      : MonthlyInRange
          (balanceAt loan.totalOutstanding (·.amount) history periodEnd
            window.lastDay.dayNumber)
          transactions := by
    apply MonthlyInRange.of_turnover
    linarith
  refine ⟨exact_monthlyOperations settled
    (fun t member => places t (List.mem_of_mem_filter (answer.mem_iff.mp member)))
    (exact ▸ inRange), ?_⟩
  intro figures opening month
  obtain ⟨_, _, rebuilt, outstanding, repaid, openingSettled, goesOn⟩ :=
    SummaryBuilder.monthlyRule_rebuilds places whole within answer inRange balance settled exact
  cases month.symm.trans rebuilt
  refine ⟨?_, ?_, openingSettled, goesOn⟩
  · rw [outstanding]
    linarith
  · rw [repaid]
    exact (abs_repaidOn_le _).trans (by linarith)

/-- The daily rule is safe in the same range, also when it averages: an average is not larger than
the sum it is taken of.
-/
theorem dailyRule_safe (policy : AveragingPolicy) (scale : Nat)
    (places : ∀ t ∈ history, t.principalPortion.Settled) (whole : window.Whole)
    (within : window.lastDay ≤ periodEnd) (running : loan.startsAfter window = false)
    {follower : Date} (following : window.lastDay.next? = some follower)
    (answer
      : transactions.Perm
          (history.filter fun t => window.firstDay ≤ t.date ∧ t.date ≤ window.lastDay))
    (bounded
      : |loan.principalOutstanding.toRat| + turnover (·.principalPortion) history ≤ bound)
    (range : 31 * bound ≤ Money.exactLimit)
    : (dailyRule policy scale loan.disbursementDate).Safe (dailyOperations loan.disbursementDate)
        loan (balanceAt loan.principalOutstanding (·.principalPortion) history periodEnd)
        (31 * bound) window transactions := by
  intro balance settled exact
  have balanceBound (day : Int) :=
    (abs_balanceAt_le loan.principalOutstanding (·.principalPortion) history periodEnd
      day).trans bounded
  have positive := abs_nonneg loan.principalOutstanding.toRat
  have part := turnover_answer (·.principalPortion) answer
  have inRange
      : DailyInRange window loan.disbursementDate
          (balanceAt loan.principalOutstanding (·.principalPortion) history periodEnd)
          transactions :=
    .of_turnover whole balanceBound (by linarith) range
  have days := whole.first_le_last
  have boundary := window.dayNumber_boundary loan.disbursementDate
  have before : loan.disbursementDate.dayNumber < window.lastDay.dayNumber := by
    rw [Loan.startsAfter, decide_eq_false_iff_not] at running
    exact Int.not_le.mp running
  refine ⟨exact_dailyOperations settled places within (by omega) following answer exact inRange,
    ?_⟩
  intro figures opening month
  obtain ⟨weightedSum, repaid, next, reported, _, sumValue, repaidValue, nextSettled, nextValue⟩ :=
    dailyRule_exact settled places within (by omega) following answer exact inRange
  obtain ⟨figure, averaged, figureBound⟩ := policy.exists_figure whole scale weightedSum
  rw [reported, averaged] at month
  cases month
  refine ⟨?_, ?_, nextSettled, ?_⟩
  · rw [sumValue] at figureBound
    exact figureBound.trans (whole.abs_sum_balances_le balanceBound _)
  · have turnoverNonneg := turnover_nonneg (·.principalPortion) history
    rw [repaidValue]
    exact (abs_repaidOn_le _).trans (by linarith)
  · intro earlier
    have first : loan.disbursementDate.dayNumber < window.firstDay.dayNumber := earlier
    rw [nextValue]
    congr 1
    omega

end Rules

-----------------------------------------------------------------------------------------
-- All months
-----------------------------------------------------------------------------------------

section Walks

variable {source : TransactionSource} {rule : MonthRule}
  {operations : MonthWindow → Money → List LoanTransaction → List Operation} {loan : Loan}
  {history transactions : List LoanTransaction} {balances : Int → ℚ} {bound : ℚ}
  {window : MonthWindow} {windows earlier : List MonthWindow} {balance : Money} {log : FetchLog}

/-- A walk back through months from a balance makes only exact operations and reports figures
within the bound.
-/
structure SafeWalk (source : TransactionSource) (rule : MonthRule)
    (operations : MonthWindow → Money → List LoanTransaction → List Operation) (loan : Loan)
    (bound : ℚ) (windows : List MonthWindow) (balance : Money) (log : FetchLog)
    : Prop where
  exact
    : ∀ operation ∈ summariseOperations source rule operations loan windows balance log,
        operation.Exact
  bounded
    : ∀ figures after,
        (summarise source rule loan windows balance).runAfter log = (.ok figures, after)
        → ∀ month ∈ figures, |month.outstanding.toRat| ≤ bound ∧ |month.repaid.toRat| ≤ bound

theorem SafeWalk.idle (nonneg : 0 ≤ bound) (idle : loan.startsAfter window = true)
    (walk : SafeWalk source rule operations loan bound earlier balance log)
    : SafeWalk source rule operations loan bound (window :: earlier) balance log where
  exact := by
    rw [summariseOperations, if_pos idle]
    exact walk.exact
  bounded := by
    intro figures after h
    obtain ⟨rest, rfl, walkEarlier⟩ := exists_of_summarise_idle idle h
    refine List.forall_mem_cons.mpr ⟨?_, walk.bounded rest after walkEarlier⟩
    simpa [MonthFigures.none] using nonneg

theorem SafeWalk.running (running : loan.startsAfter window = false)
    (answer : source.answer log (loan.fetchIn window) = .ok transactions)
    (exact : ∀ operation ∈ operations window balance transactions, operation.Exact)
    (bounded
      : ∀ figures opening,
          rule window balance transactions = .ok (figures, opening)
          → |figures.outstanding.toRat| ≤ bound ∧ |figures.repaid.toRat| ≤ bound)
    (goesOn
      : ∀ figures opening,
          rule window balance transactions = .ok (figures, opening)
          → SafeWalk source rule operations loan bound earlier opening
              (log ++ [loan.fetchIn window]))
    : SafeWalk source rule operations loan bound (window :: earlier) balance log where
  exact := by
    rw [summariseOperations, running, if_neg (by simp), answer]
    refine List.forall_mem_append.mpr ⟨exact, ?_⟩
    exact exact_following fun result summed => (goesOn result.1 result.2 summed).exact
  bounded := by
    intro figures after h
    obtain ⟨_, month, opening, rest, rfl, again, summed, walk⟩ :=
      exists_of_summarise_running running h
    cases answer.symm.trans again
    exact List.forall_mem_cons.mpr
      ⟨bounded month opening summed, (goesOn month opening summed).bounded rest after walk⟩

/-- A walk is safe if the rule is safe in every month in which the loan is running. The induction is
over the months still to come; the balance is exact as long as the next month is one in which the
loan is running.
-/
theorem summarise_safe (reports : source.Reports loan.id history) (nonneg : 0 ≤ bound)
    (safe
      : ∀ window ∈ windows,
          loan.startsAfter window = false
          → ∀ transactions,
              transactions.Perm
                (history.filter fun t => window.firstDay ≤ t.date ∧ t.date ≤ window.lastDay)
              → rule.Safe operations loan balances bound window transactions)
    {last : Int} (months : MonthWindow.MonthsBackFrom last windows) (settled : balance.Settled)
    (exact
      : ∀ window ∈ windows.head?,
          loan.startsAfter window = false → balance.toRat = balances last)
    (log : FetchLog)
    : SafeWalk source rule operations loan bound windows balance log := by
  induction windows generalizing last balance log with
  | nil =>
      constructor
      · nofun
      · intro figures after walk
        cases walk
        nofun
  | cons window earlier ih =>
      have safeEarlier := fun w member => safe w (List.mem_cons_of_mem window member)
      have rest := months.2.2
      cases running : loan.startsAfter window with
      | true =>
          -- no balance is needed any more: the months before this one are idle, too
          have idle
              : ∀ previous ∈ earlier.head?,
                  loan.startsAfter previous = false
                  → balance.toRat = balances (window.firstDay.dayNumber - 1) := by
            intro previous next active
            have passed := Loan.idle_before months running previous (List.mem_of_mem_head? next)
            rw [active] at passed
            cases passed
          exact .idle nonneg running (ih safeEarlier rest settled idle log)
      | false =>
          have atEnd : balance.toRat = balances window.lastDay.dayNumber := by
            rw [exact window rfl running, months.2.1]
          obtain ⟨transactions, answer, content⟩ := reports log window.firstDay window.lastDay
          obtain ⟨exactMonth, month⟩ :=
            safe window (by simp) running transactions content balance settled atEnd
          refine .running running answer exactMonth
            (fun figures opening summed => ?_) (fun figures opening summed => ?_)
          · obtain ⟨outstanding, repaid, _⟩ := month figures opening summed
            exact ⟨outstanding, repaid⟩
          · -- an idle month needs no balance, so this one is exact where it is needed
            obtain ⟨_, _, settledOpening, before⟩ := month figures opening summed
            exact ih safeEarlier rest settledOpening
              (fun previous next active => before (Loan.disbursed_before months next active))
              (log ++ [loan.fetchIn window])

end Walks

-----------------------------------------------------------------------------------------
-- Series
-----------------------------------------------------------------------------------------

theorem magnitude_le {amounts : List Money} {bound : ℚ} (bounded : ∀ m ∈ amounts, |m.toRat| ≤ bound)
    : magnitude amounts ≤ amounts.length * bound := by
  have sum := List.sum_le_card_nsmul (amounts.map fun m => |m.toRat|) bound (by
    intro part member
    obtain ⟨m, listed, rfl⟩ := List.mem_map.mp member
    exact bounded m listed)
  rwa [List.length_map, nsmul_eq_mul] at sum

theorem ChargePeriod.months_le (period : ChargePeriod)
    : period.months ≤ 12 := by
  rw [ChargePeriod.months]
  cases period.period <;> simp [BillingPeriod.months]

namespace SummaryBuilder

variable {builder : SummaryBuilder} {loan : Loan} {history : List LoanTransaction}
  {mode : SummaryMode} {log : FetchLog}

/-- The rule of a mode is safe in every month of the period in which the loan is running. -/
theorem rule_safe (places : ∀ t ∈ history, (mode.amount t).Settled) {bound : ℚ}
    (bounded : |(mode.closingBalance loan).toRat| + turnover mode.amount history ≤ bound)
    (range : 31 * bound ≤ Money.exactLimit) {window : MonthWindow}
    (member : window ∈ builder.period.windows) (running : loan.startsAfter window = false)
    {transactions : List LoanTransaction}
    (answer
      : transactions.Perm
          (history.filter fun t => window.firstDay ≤ t.date ∧ t.date ≤ window.lastDay))
    : (builder.rule loan mode).Safe (ruleOperations loan mode) loan
        (mode.balances loan history builder.period.toDate) (31 * bound) window transactions := by
  obtain ⟨whole, within⟩ := builder.period.monthsBackFrom_windows.forall_mem member
  cases mode with
  | monthly => exact monthlyRule_safe places whole within answer bounded range
  | daily =>
      obtain ⟨follower, following⟩ := ChargePeriod.exists_next?_lastDay member
      exact dailyRule_safe _ _ places whole within running following answer bounded range

/-- In the safe range of a loan every operation behind its series is exact, and neither its balances
nor its repayments add up to more than 372 times the bound, 31 days in each of 12 months.
-/
theorem operations_safe (product : LoanProduct) (reports : builder.source.Reports loan.id history)
    (settled : (mode.closingBalance loan).Settled)
    (places : ∀ t ∈ history, (mode.amount t).Settled) {bound : ℚ}
    (bounded : |(mode.closingBalance loan).toRat| + turnover mode.amount history ≤ bound)
    (range : 31 * bound ≤ Money.exactLimit)
    : (∀ operation ∈ builder.operations loan mode log, operation.Exact)
      ∧ ∀ series after,
          (builder.build loan product mode).runAfter log = (.ok series, after)
          → magnitude series.outstanding ≤ 372 * bound
            ∧ magnitude series.repayments ≤ 372 * bound := by
  have nonneg : 0 ≤ bound := by
    have closing := abs_nonneg (mode.closingBalance loan).toRat
    have turnoverNonneg := turnover_nonneg mode.amount history
    linarith
  have safe
      : ∀ window ∈ builder.period.windows,
          loan.startsAfter window = false
          → ∀ transactions,
              transactions.Perm
                (history.filter fun t => window.firstDay ≤ t.date ∧ t.date ≤ window.lastDay)
              → (builder.rule loan mode).Safe (ruleOperations loan mode) loan
                  (mode.balances loan history builder.period.toDate) (31 * bound) window
                  transactions :=
    fun _ member running _ answer => rule_safe places bounded range member running answer
  obtain ⟨exact, bounds⟩ :=
    summarise_safe reports (by linarith : 0 ≤ 31 * bound) safe
      builder.period.monthsBackFrom_windows settled (fun _ _ _ => balanceAt_end.symm) log
  refine ⟨exact, ?_⟩
  intro series after built
  obtain ⟨lengthOutstanding, lengthRepayments⟩ := length_of_build built
  obtain ⟨figures, walk, rfl⟩ := exists_figures built
  have year : (builder.period.months : ℚ) ≤ 12 := by exact_mod_cast builder.period.months_le
  have all : (builder.period.months : ℚ) * (31 * bound) ≤ 372 * bound := by
    have most := mul_le_mul_of_nonneg_right year (by linarith : 0 ≤ 31 * bound)
    linarith
  simp only [BalanceSeries.ofFigures] at lengthOutstanding lengthRepayments ⊢
  constructor
  · refine (magnitude_le fun m listed => ?_).trans (by rwa [lengthOutstanding])
    obtain ⟨month, member, rfl⟩ := List.mem_map.mp (List.mem_reverse.mp listed)
    exact (bounds figures after walk month member).1
  · refine (magnitude_le fun m listed => ?_).trans (by rwa [lengthRepayments])
    obtain ⟨month, member, rfl⟩ := List.mem_map.mp (List.mem_reverse.mp listed)
    exact (bounds figures after walk month member).2

end SummaryBuilder

end ChargeBasis

import ChargeBasis.Proofs.Summary.Reconstruction

/-!
The monthly mode end to end. The balance reported for a month is the balance at the end of its
last day, the repayments are those of the month, and the two fit together from month to month.
-/

namespace ChargeBasis

/-- All sums that the monthly mode forms for a month are in range: the repayments as they are added
up, and the balance that they are added back to.
-/
structure MonthlyInRange (closing : ℚ) (transactions : List LoanTransaction) : Prop where
  repaid
    : Money.PartialSumsInRange
        ((transactions.filter (·.isRepayment)).map fun t => t.amount.toRat)
  opening : Money.InRange (closing + repaidOn (·.amount) transactions fun _ => True)

/-- A month is in range if its closing balance and its turnover together are. -/
theorem MonthlyInRange.of_turnover {closing : ℚ} {transactions : List LoanTransaction}
    (bound : |closing| + turnover (·.amount) transactions ≤ Money.exactLimit)
    : MonthlyInRange closing transactions where
  repaid := by
    let repayments := transactions.filter (·.isRepayment)
    have part : magnitude (repayments.map (·.amount)) ≤ Money.exactLimit := by
      have size := abs_nonneg closing
      have within : repayments.Sublist transactions := List.filter_sublist
      have repaid := turnover_sublist (·.amount) within
      rw [turnover_eq_magnitude] at repaid
      linarith
    have range := partialSumsInRange_of_magnitude part
    rwa [List.map_map] at range
  opening :=
    calc |closing + repaidOn (·.amount) transactions fun _ => True|
        ≤ |closing| + |repaidOn (·.amount) transactions fun _ => True| := abs_add_le _ _
      _ ≤ |closing| + turnover (·.amount) transactions := by
        exact add_le_add_right (abs_repaidOn_le _) _
      _ ≤ Money.exactLimit := bound

/-- Every month is in range if today's balance and twice the turnover of the history are. -/
theorem Loan.monthlyInRange_of_turnover {loan : Loan} {source : TransactionSource}
    {history : List LoanTransaction} {log : FetchLog} {windows : List MonthWindow}
    {periodEnd : Date} (reports : source.Reports loan.id history)
    (bound
      : |loan.totalOutstanding.toRat| + 2 * turnover (·.amount) history ≤ Money.exactLimit)
    : loan.EveryAnswer source log windows fun window transactions =>
        MonthlyInRange
          (balanceAt loan.totalOutstanding (·.amount) history periodEnd
            window.lastDay.dayNumber)
          transactions := by
  refine (loan.everyAnswer_trivial source log windows).of_reports reports ?_
  intro window _ _ transactions answer _
  apply MonthlyInRange.of_turnover
  have balance :=
    abs_balanceAt_le loan.totalOutstanding (·.amount) history periodEnd window.lastDay.dayNumber
  have part := turnover_answer (·.amount) answer
  linarith

theorem repaidOn_all (amount : LoanTransaction → Money) (transactions : List LoanTransaction)
    : repaidOn amount transactions (fun _ => True)
      = ((transactions.filter (·.isRepayment)).map fun t => (amount t).toRat).sum := by
  simp [repaidOn]

/-- The monthly rule reports the balance it starts from, adds up the repayments and adds them back.
-/
theorem monthlyRule_exact {window : MonthWindow} {balance : Money}
    {transactions : List LoanTransaction} (settled : balance.Settled)
    (places : ∀ t ∈ transactions, t.amount.Settled)
    (range : MonthlyInRange balance.toRat transactions)
    : ∃ repaid opening,
        monthlyRule window balance transactions = .ok (⟨balance, repaid⟩, opening)
        ∧ repaid.toRat = repaidOn (·.amount) transactions (fun _ => True)
        ∧ opening.Settled
        ∧ opening.toRat = balance.toRat + repaidOn (·.amount) transactions fun _ => True := by
  have repaidPlaces
      : ∀ m ∈ (transactions.filter (·.isRepayment)).map (·.amount), m.Settled := by
    intro m member
    obtain ⟨t, kept, rfl⟩ := List.mem_map.mp member
    exact places t (List.mem_filter.mp kept).1
  obtain ⟨repaid, summed, repaidSettled, repaidValue⟩ :=
    Money.sum_exact repaidPlaces (by simpa [Function.comp_def] using range.repaid)
  have repaidAll : repaid.toRat = repaidOn (·.amount) transactions fun _ => True := by
    rw [repaidValue, repaidOn_all, List.map_map]
    rfl
  obtain ⟨opening, added, openingSettled, openingValue⟩ :=
    Money.add_exact settled repaidSettled (by rw [repaidAll]; exact range.opening)
  refine ⟨repaid, opening, ?_, repaidAll, openingSettled, by rw [openingValue, repaidAll]⟩
  simp only [monthlyRule, summed, bind, Except.bind, added, liftM, monadLift, MonadLift.monadLift,
    Except.mapError, pure, Except.pure]

namespace SummaryBuilder

section Monthly

variable {builder : SummaryBuilder} {loan : Loan} {history : List LoanTransaction}
  {log : FetchLog}

/-- For the transactions of a month the monthly rule reports the balance at the end of its last
day and goes on with the one at the end of the day before its first.
-/
theorem monthlyRule_rebuilds {periodEnd : Date} {window : MonthWindow}
    {transactions : List LoanTransaction}
    (places : ∀ t ∈ history, t.amount.Settled) (whole : window.Whole)
    (within : window.lastDay ≤ periodEnd)
    (answer
      : transactions.Perm
          (history.filter fun t => window.firstDay ≤ t.date ∧ t.date ≤ window.lastDay))
    (range
      : MonthlyInRange
          (balanceAt loan.totalOutstanding (·.amount) history periodEnd
            window.lastDay.dayNumber)
          transactions)
    : monthlyRule.Rebuilds loan
        (balanceAt loan.totalOutstanding (·.amount) history periodEnd)
        (fun window =>
          balanceAt loan.totalOutstanding (·.amount) history periodEnd
            window.lastDay.dayNumber)
        (fun window =>
          repaidOn (·.amount) history fun day =>
            window.firstDay ≤ day ∧ day ≤ window.lastDay)
        window transactions := by
  intro balance settled exact
  have repaidHere
      : repaidOn (·.amount) transactions (fun _ => True)
        = repaidOn (·.amount) history
            fun day => window.firstDay ≤ day ∧ day ≤ window.lastDay := by
    rw [repaidOn_perm answer,
      repaidOn_filter (fun day => window.firstDay ≤ day ∧ day ≤ window.lastDay)]
    exact repaidOn_congr fun t _ _ => by simp
  obtain ⟨repaid, opening, month, repaidValue, openingSettled, openingValue⟩ :=
    monthlyRule_exact settled
      (fun t member => places t (List.mem_of_mem_filter (answer.mem_iff.mp member)))
      (exact ▸ range)
  refine ⟨_, opening, month, exact, by rw [repaidValue, repaidHere], openingSettled, ?_⟩
  intro _
  have days := whole.first_le_last
  rw [openingValue, repaidHere, exact, balanceAt_before (by omega) within]

/-- Two neighbouring places of a reversed list hold neighbours in the opposite order. -/
theorem exists_split_of_reverse {α : Type} {items : List α} {a b : α} {i : Nat}
    (first : items.reverse[i]? = some a) (second : items.reverse[i + 1]? = some b)
    : ∃ front back, items = front ++ b :: a :: back := by
  obtain ⟨bound, last⟩ := List.getElem?_eq_some_iff.mp second
  have before := (List.getElem?_eq_some_iff.mp first).2
  have tail : items.reverse.drop i = a :: b :: items.reverse.drop (i + 2) := by
    rw [List.drop_eq_getElem_cons (by omega), List.drop_eq_getElem_cons bound, before, last]
  refine ⟨(items.reverse.drop (i + 2)).reverse, (items.reverse.take i).reverse, ?_⟩
  have whole := congrArg List.reverse (List.take_append_drop i items.reverse)
  rw [tail, List.reverse_reverse] at whole
  calc items
      = (items.reverse.take i ++ a :: b :: items.reverse.drop (i + 2)).reverse := whole.symm
    _ = (items.reverse.drop (i + 2)).reverse ++ b :: a :: (items.reverse.take i).reverse := by
        simp

/-- Of two months in a row the earlier one ends on the day before the later one starts. -/
theorem exists_neighbours {period : ChargePeriod} {month : Nat} {window next : MonthWindow}
    (this : period.windows.reverse[month]? = some window)
    (following : period.windows.reverse[month + 1]? = some next)
    : next.Whole
      ∧ next.lastDay ≤ period.toDate
      ∧ window.lastDay.dayNumber = next.firstDay.dayNumber - 1 := by
  obtain ⟨later, earlier, split⟩ := exists_split_of_reverse this following
  have months := period.monthsBackFrom_windows
  have member : next ∈ period.windows := by
    rw [split]
    simp
  obtain ⟨whole, within⟩ := months.forall_mem member
  rw [split] at months
  exact ⟨whole, within, months.neighbours⟩

/-- The monthly mode reports, oldest month first, the balance at the end of every month in which
the loan is running, which is today's balance and all that is repaid after the month, and the
repayments of the month; both are zero for the months before. So balances fall from month to month
by the repayments. Every month is rebuilt by the monthly rule from the exact balance at its end.
-/
theorem build_monthly (product : LoanProduct)
    (reports : builder.source.Reports loan.id history)
    (settled : loan.totalOutstanding.Settled) (places : ∀ t ∈ history, t.amount.Settled)
    (range
      : loan.EveryAnswer builder.source log builder.period.windows
          fun window transactions =>
            MonthlyInRange
              (balanceAt loan.totalOutstanding (·.amount) history builder.period.toDate
                window.lastDay.dayNumber)
              transactions)
    : ∃ series,
        (builder.build loan product .monthly).runAfter log
          = (.ok series, log ++ loan.requestsIn builder.period.windows)
        ∧ series.outstanding.map (·.toRat)
          = (builder.period.windows.reverse.map fun window =>
              if window.lastDay ≤ loan.disbursementDate then 0
              else
                loan.totalOutstanding.toRat
                + repaidOn (·.amount) history
                    fun day => window.lastDay < day ∧ day ≤ builder.period.toDate)
        ∧ series.repayments.map (·.toRat)
          = (builder.period.windows.reverse.map fun window =>
              if window.lastDay ≤ loan.disbursementDate then 0
              else
                repaidOn (·.amount) history
                  fun day => window.firstDay ≤ day ∧ day ≤ window.lastDay)
        ∧ ∀ month window next,
            builder.period.windows.reverse[month]? = some window
            → builder.period.windows.reverse[month + 1]? = some next
            → loan.disbursementDate < window.lastDay
            → ∃ balance nextBalance repaid,
                series.outstanding[month]? = some balance
                ∧ series.outstanding[month + 1]? = some nextBalance
                ∧ series.repayments[month + 1]? = some repaid
                ∧ balance.toRat - nextBalance.toRat = repaid.toRat := by
  have months := builder.period.monthsBackFrom_windows
  obtain ⟨series, built, outstanding, repayments⟩ :=
    build_exact product .monthly reports settled balanceAt_end.symm
      (range.of_reports reports fun window member running transactions content inRange => by
        obtain ⟨whole, within⟩ := months.forall_mem member
        exact monthlyRule_rebuilds places whole within content inRange)
  have idle (window : MonthWindow)
      : loan.startsAfter window = true ↔ window.lastDay ≤ loan.disbursementDate :=
    decide_eq_true_iff
  refine ⟨series, built, ?_, ?_, ?_⟩
  · rw [outstanding, Loan.valuesIn]
    simp only [idle]
    rfl
  · rw [repayments, Loan.valuesIn]
    simp only [idle]
  · intro month window next this following running
    obtain ⟨whole, within, ends⟩ := exists_neighbours this following
    have days := whole.first_le_last
    have active : loan.startsAfter window = false := by
      rw [← Bool.not_eq_true, idle]
      exact Int.not_le.mpr running
    -- the month after a running one ends later still
    have nextActive : loan.startsAfter next = false := by
      rw [← Bool.not_eq_true, idle]
      have start : loan.disbursementDate.dayNumber < window.lastDay.dayNumber := running
      change ¬ next.lastDay.dayNumber ≤ loan.disbursementDate.dayNumber
      omega
    obtain ⟨balance, place, balanceValue⟩ := Loan.exists_reported outstanding this active
    obtain ⟨nextBalance, nextPlace, nextValue⟩ :=
      Loan.exists_reported outstanding following nextActive
    obtain ⟨repaid, repaidPlace, repaidValue⟩ :=
      Loan.exists_reported repayments following nextActive
    refine ⟨balance, nextBalance, repaid, place, nextPlace, repaidPlace, ?_⟩
    rw [balanceValue, nextValue, repaidValue, ends, balanceAt_before (by omega) within]
    ring

/-- The monthly balances of the sample loan. -/
theorem build_monthly_sample
    : let builder : SummaryBuilder := ⟨Sample.quarter, Sample.ledger.source, .weightedSum, 2⟩
      builder.source.Reports Sample.loan.id Sample.transactions
      ∧ Sample.loan.totalOutstanding.Settled
      ∧ (∀ t ∈ Sample.transactions, t.amount.Settled)
      ∧ ∃ series,
          (builder.build Sample.loan Sample.product .monthly).runAfter []
            = (.ok series, Sample.loan.requestsIn Sample.quarter.windows)
          ∧ series.outstanding.map (·.toRat) = [0, 1040, 1000]
          ∧ series.repayments.map (·.toRat) = [0, 190, 40] := by
  have settled : Sample.loan.totalOutstanding.Settled := by decide +kernel
  have places : ∀ t ∈ Sample.transactions, t.amount.Settled := by decide +kernel
  obtain ⟨series, built, outstanding, repayments, _⟩ :=
    @build_monthly ⟨Sample.quarter, Sample.ledger.source, .weightedSum, 2⟩ Sample.loan
      Sample.transactions [] Sample.product Sample.reports settled places
      (Loan.monthlyInRange_of_turnover Sample.reports (by decide +kernel))
  refine ⟨Sample.reports, settled, places, series, built, ?_, ?_⟩
  · rw [outstanding]
    decide +kernel
  · rw [repayments]
    decide +kernel

end Monthly

end SummaryBuilder

end ChargeBasis

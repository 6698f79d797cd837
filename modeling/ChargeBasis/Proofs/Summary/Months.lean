import ChargeBasis.Summary.SummaryBuilder
import ChargeBasis.Proofs.Money.Exactness
import ChargeBasis.Proofs.Period.Windows
import ChargeBasis.Proofs.Source.Reading

/-!
The walk back through the months of a loan, for every rule and every source: one month at a time,
with figures for all of them or the first fault, and a series made of the figures.
-/

namespace ChargeBasis

-----------------------------------------------------------------------------------------
-- One month
-----------------------------------------------------------------------------------------

section Summarise

variable {source : TransactionSource} {rule : MonthRule} {loan : Loan} {window : MonthWindow}
  {windows earlier : List MonthWindow} {balance opening : Money} {log after : FetchLog}
  {figures : List MonthFigures}

/-- A month in which the loan is not running is passed over; otherwise it is asked for and summed up
by the rule, and the walk ends with the first fault.
-/
theorem runAfter_summarise_cons
    : (summarise source rule loan (window :: earlier) balance).runAfter log
      = if loan.startsAfter window then
          ((summarise source rule loan earlier balance).runAfter log).map
            (Except.map (.none :: ·)) id
        else
          match source.answer log (loan.fetchIn window) with
          | .error e => (.error (.failed e), log ++ [loan.fetchIn window])
          | .ok transactions =>
            match rule window balance transactions with
            | .error fault => (.error fault, log ++ [loan.fetchIn window])
            | .ok (month, opening) =>
              ((summarise source rule loan earlier opening).runAfter
                  (log ++ [loan.fetchIn window])).map
                (Except.map (month :: ·)) id := by
  rw [summarise]
  split
  · rw [Reading.runAfter_bind]
    rcases (summarise source rule loan earlier balance).runAfter log with ⟨fault | rest, _⟩ <;>
      rfl
  · rw [Reading.runAfter_bind, TransactionSource.runAfter_fetch]
    rcases source.answer log (loan.fetchIn window) with e | transactions
    · rfl
    · simp only [Except.mapError, Reading.runAfter_bind, Reading.runAfter_liftM]
      rcases rule window balance transactions with fault | ⟨month, opening⟩
      · rfl
      · simp only
        rcases (summarise source rule loan earlier opening).runAfter
          (log ++ [loan.fetchIn window]) with ⟨fault | rest, _⟩ <;> rfl

/-- Months before a loan started are reported as nothing, without a request. -/
theorem summarise_of_idle (idle : ∀ window ∈ windows, loan.startsAfter window = true)
    : (summarise source rule loan windows balance).runAfter log
      = (.ok (windows.map fun _ => .none), log) := by
  induction windows with
  | nil => rfl
  | cons window earlier ih =>
      rw [runAfter_summarise_cons, if_pos (idle window (by simp)),
        ih fun w member => idle w (by simp [member])]
      rfl

/-- A month in which the loan is running is asked for and summed up by the rule, which gives the
balance that the walk goes on with.
-/
theorem summarise_of_running {transactions : List LoanTransaction} {month : MonthFigures}
    (running : loan.startsAfter window = false)
    (answer : source.answer log (loan.fetchIn window) = .ok transactions)
    (summed : rule window balance transactions = .ok (month, opening))
    (walk
      : (summarise source rule loan earlier opening).runAfter (log ++ [loan.fetchIn window])
        = (.ok figures, after))
    : (summarise source rule loan (window :: earlier) balance).runAfter log
      = (.ok (month :: figures), after) := by
  rw [runAfter_summarise_cons, if_neg (by simp [running]), answer]
  simp only [summed, walk]
  rfl

/-- What a walk can do in its first month: pass it over, end with an error of the source or with a
fault of the rule, or go on with what the rule makes of the answer.
-/
theorem summarise_cons_cases {outcome : Except Fault (List MonthFigures)}
    (h
      : (summarise source rule loan (window :: earlier) balance).runAfter log
        = (outcome, after))
    : (loan.startsAfter window = true
        ∧ ∃ rest,
            (summarise source rule loan earlier balance).runAfter log = (rest, after)
            ∧ outcome = rest.map (.none :: ·))
      ∨ (loan.startsAfter window = false
        ∧ ∃ e,
            source.answer log (loan.fetchIn window) = .error e
            ∧ outcome = .error (.failed e)
            ∧ after = log ++ [loan.fetchIn window])
      ∨ (loan.startsAfter window = false
        ∧ ∃ transactions,
            source.answer log (loan.fetchIn window) = .ok transactions
            ∧ ((∃ fault,
                rule window balance transactions = .error fault
                ∧ outcome = .error fault
                ∧ after = log ++ [loan.fetchIn window])
              ∨ ∃ month opening rest,
                  rule window balance transactions = .ok (month, opening)
                  ∧ (summarise source rule loan earlier opening).runAfter
                      (log ++ [loan.fetchIn window])
                    = (rest, after)
                  ∧ outcome = rest.map (month :: ·))) := by
  rw [runAfter_summarise_cons] at h
  cases running : loan.startsAfter window with
  | true =>
      rw [if_pos running] at h
      obtain ⟨rfl, rfl⟩ := Prod.mk.inj h
      exact .inl ⟨rfl, _, rfl, rfl⟩
  | false =>
      rw [if_neg (by simp [running])] at h
      rcases answer : source.answer log (loan.fetchIn window) with e | transactions
      · rw [answer] at h
        obtain ⟨rfl, rfl⟩ := Prod.mk.inj h
        exact .inr (.inl ⟨rfl, e, rfl, rfl, rfl⟩)
      · simp only [answer] at h
        refine .inr (.inr ⟨rfl, transactions, rfl, ?_⟩)
        rcases summed : rule window balance transactions with fault | ⟨month, opening⟩
        · simp only [summed] at h
          obtain ⟨rfl, rfl⟩ := Prod.mk.inj h
          exact .inl ⟨fault, rfl, rfl, rfl⟩
        · simp only [summed] at h
          obtain ⟨rfl, rfl⟩ := Prod.mk.inj h
          exact .inr ⟨month, opening, _, rfl, rfl, rfl⟩

/-- A walk that gives figures gives one for each month: nothing if the loan was not running, or else
what the rule makes of the answer.
-/
theorem exists_of_summarise_cons
    (h : (summarise source rule loan (window :: earlier) balance).runAfter log
      = (.ok figures, after))
    : ∃ month rest opening between,
        figures = month :: rest
        ∧ (summarise source rule loan earlier opening).runAfter between = (.ok rest, after)
        ∧ (loan.startsAfter window = true
              ∧ month = .none
              ∧ opening = balance
              ∧ between = log
            ∨ loan.startsAfter window = false
              ∧ between = log ++ [loan.fetchIn window]
              ∧ ∃ transactions,
                  source.answer log (loan.fetchIn window) = .ok transactions
                  ∧ rule window balance transactions = .ok (month, opening)) := by
  rcases summarise_cons_cases h with
    ⟨idle, rest, walk, same⟩ | ⟨_, _, _, same, _⟩
    | ⟨running, transactions, answer, ⟨_, _, same, _⟩ | ⟨month, opening, rest, summed, walk, same⟩⟩
  · obtain ⟨tail, rfl, rfl⟩ := Except.map_eq_ok_iff.mp same.symm
    exact ⟨_, tail, balance, log, rfl, walk, .inl ⟨idle, rfl, rfl, rfl⟩⟩
  · cases same
  · cases same
  · obtain ⟨tail, rfl, rfl⟩ := Except.map_eq_ok_iff.mp same.symm
    exact ⟨month, tail, opening, _, rfl, walk, .inr ⟨running, rfl, transactions, answer, summed⟩⟩

theorem exists_of_summarise_idle (idle : loan.startsAfter window = true)
    (h : (summarise source rule loan (window :: earlier) balance).runAfter log
      = (.ok figures, after))
    : ∃ rest,
        figures = .none :: rest
        ∧ (summarise source rule loan earlier balance).runAfter log = (.ok rest, after) := by
  obtain ⟨_, rest, _, _, rfl, walk, ⟨_, rfl, rfl, rfl⟩ | ⟨running, _⟩⟩ :=
    exists_of_summarise_cons h
  · exact ⟨rest, rfl, walk⟩
  · rw [idle] at running
    cases running

theorem exists_of_summarise_running (running : loan.startsAfter window = false)
    (h : (summarise source rule loan (window :: earlier) balance).runAfter log
      = (.ok figures, after))
    : ∃ transactions month opening rest,
        figures = month :: rest
        ∧ source.answer log (loan.fetchIn window) = .ok transactions
        ∧ rule window balance transactions = .ok (month, opening)
        ∧ (summarise source rule loan earlier opening).runAfter (log ++ [loan.fetchIn window])
          = (.ok rest, after) := by
  obtain ⟨month, rest, opening, _, rfl, walk, ⟨idle, _⟩ | ⟨_, rfl, transactions, answer, summed⟩⟩ :=
    exists_of_summarise_cons h
  · rw [running] at idle
    cases idle
  · exact ⟨transactions, month, opening, rest, rfl, answer, summed, walk⟩

theorem length_of_summarise
    (h : (summarise source rule loan windows balance).runAfter log = (.ok figures, after))
    : figures.length = windows.length := by
  induction windows generalizing balance log figures with
  | nil =>
      cases h
      rfl
  | cons window earlier ih =>
      obtain ⟨month, rest, opening, between, rfl, walk, _⟩ := exists_of_summarise_cons h
      exact congrArg Nat.succ (ih walk)

/-- With answers that do not depend on earlier requests the outcome does not either, by induction
over the months. -/
theorem summarise_memoryless (memoryless : source.Memoryless) (other : FetchLog)
    : ((summarise source rule loan windows balance).runAfter log).1
      = ((summarise source rule loan windows balance).runAfter other).1 := by
  induction windows generalizing balance log other with
  | nil => rfl
  | cons window earlier ih =>
      rw [runAfter_summarise_cons, runAfter_summarise_cons,
        memoryless log other (loan.fetchIn window)]
      split
      · exact congrArg (Except.map _) (ih other)
      · rcases source.answer other (loan.fetchIn window) with e | transactions
        · rfl
        · simp only
          rcases rule window balance transactions with fault | ⟨month, opening⟩
          · rfl
          · exact congrArg (Except.map _) (ih _)

end Summarise

-----------------------------------------------------------------------------------------
-- Places
-----------------------------------------------------------------------------------------

/-- Starting from a balance with at most the places kept, the rule gives only such amounts. -/
def MonthRule.KeepsPlaces (rule : MonthRule) : Prop :=
  ∀ window balance transactions figures opening,
    balance.Settled
    → rule window balance transactions = .ok (figures, opening)
    → figures.outstanding.Settled ∧ figures.repaid.Settled ∧ opening.Settled

/-- The figures of a walk have at most the places kept, by induction over the months. -/
theorem settled_of_summarise {source : TransactionSource} {rule : MonthRule} {loan : Loan}
    {windows : List MonthWindow} {balance : Money} {log after : FetchLog}
    {figures : List MonthFigures} (keeps : rule.KeepsPlaces) (settled : balance.Settled)
    (h : (summarise source rule loan windows balance).runAfter log = (.ok figures, after))
    : ∀ month ∈ figures, month.outstanding.Settled ∧ month.repaid.Settled := by
  induction windows generalizing balance log figures with
  | nil =>
      cases h
      intro month member
      cases member
  | cons window earlier ih =>
      obtain ⟨head, rest, opening, between, rfl, walk, cause⟩ := exists_of_summarise_cons h
      have step : (head.outstanding.Settled ∧ head.repaid.Settled) ∧ opening.Settled := by
        rcases cause with ⟨_, rfl, rfl, _⟩ | ⟨_, _, transactions, _, summed⟩
        · exact ⟨⟨Money.settled_zero, Money.settled_zero⟩, settled⟩
        · obtain ⟨outstanding, repaid, next⟩ := keeps _ _ _ _ _ settled summed
          exact ⟨⟨outstanding, repaid⟩, next⟩
      intro month member
      rcases List.mem_cons.mp member with rfl | member
      · exact step.1
      · exact ih step.2 walk month member

theorem monthlyRule_keepsPlaces
    : monthlyRule.KeepsPlaces := by
  intro window balance transactions figures opening settled h
  simp only [monthlyRule, Except.bind_eq_ok_iff, Except.liftM_overflow,
    Except.mapError_eq_ok_iff] at h
  obtain ⟨repaid, summed, next, added, same⟩ := h
  cases same
  exact ⟨settled, Money.settled_of_sum summed, Money.settled_of_add added⟩

namespace WeighedBalance

/-- Both amounts of the state have at most the places kept. -/
def Settled (state : WeighedBalance) : Prop :=
  state.runningBalance.Settled ∧ state.weightedSum.Settled

theorem start_eq_ok {window : MonthWindow} (closing : Money) {follower : Date}
    (following : window.lastDay.next? = some follower)
    : start closing window = .ok ⟨closing, follower, .zero⟩ := by
  simp only [start, following]

theorem settled_of_visit {state next : WeighedBalance} {byDay : DailyRepayments} {day : Date}
    (settled : state.Settled) (h : state.visit byDay day = .ok next)
    : next.Settled := by
  unfold visit at h
  split at h
  · simp only [repaid, Except.bind_eq_ok_iff] at h
    obtain ⟨held, _, balance, added, sum, counted, same⟩ := h
    cases same
    exact ⟨Money.settled_of_add added, Money.settled_of_add counted⟩
  · cases h
    exact settled

theorem settled_of_visitAll {state final : WeighedBalance} {byDay : DailyRepayments}
    {days : List Date} (settled : state.Settled) (h : state.visitAll byDay days = .ok final)
    : final.Settled := by
  induction days generalizing state with
  | nil =>
      cases h
      exact settled
  | cons day earlier ih =>
      rw [visitAll, List.foldlM_cons, Except.bind_eq_ok_iff] at h
      obtain ⟨next, step, rest⟩ := h
      exact ih (settled_of_visit settled step) rest

end WeighedBalance

theorem settled_of_weighWindow {window : MonthWindow} {disbursement : Date} {closing : Money}
    {byDay : DailyRepayments} {weighed : WeighedBalance} (settled : closing.Settled)
    (h : weighWindow window disbursement closing byDay = .ok weighed)
    : weighed.Settled := by
  simp only [weighWindow, WeighedBalance.close, Except.bind_eq_ok_iff, Except.liftM_overflow,
    Except.liftM_failed, Except.mapError_eq_ok_iff] at h
  obtain ⟨start, started, walked, visited, held, _, sum, counted, same⟩ := h
  cases same
  have fresh : start.Settled := by
    unfold WeighedBalance.start at started
    split at started
    · cases started
      exact ⟨settled, Money.settled_zero⟩
    · cases started
  exact ⟨(WeighedBalance.settled_of_visitAll fresh visited).1, Money.settled_of_add counted⟩

theorem AveragingPolicy.settled_of_figure {policy : AveragingPolicy} {places : Nat}
    {window : MonthWindow} {weightedSum figure : Money} (settled : weightedSum.Settled)
    (h : policy.figure places window weightedSum = .ok figure)
    : figure.Settled := by
  cases policy with
  | weightedSum =>
      cases h
      exact settled
  | dailyAverage =>
      simp only [AveragingPolicy.figure, Except.mapError_eq_ok_iff, Except.map_eq_ok_iff] at h
      obtain ⟨quotient, _, rfl⟩ := h
      exact Money.scale_ofDecimal_le quotient

theorem dailyRule_keepsPlaces (policy : AveragingPolicy) (places : Nat) (disbursement : Date)
    : (dailyRule policy places disbursement).KeepsPlaces := by
  intro window balance transactions figures opening settled h
  simp only [dailyRule, Except.bind_eq_ok_iff, Except.liftM_overflow, Except.liftM_failed,
    Except.mapError_eq_ok_iff] at h
  obtain ⟨all, _, repaid, summed, weighed, walked, figure, reported, same⟩ := h
  cases same
  obtain ⟨running, sum⟩ := settled_of_weighWindow settled walked
  exact ⟨AveragingPolicy.settled_of_figure sum reported, Money.settled_of_sum summed, running⟩

-----------------------------------------------------------------------------------------
-- Series
-----------------------------------------------------------------------------------------

/-- The series of figures that are listed with the latest month first. -/
def BalanceSeries.ofFigures (loan : Loan) (product : LoanProduct) (mode : SummaryMode)
    (figures : List MonthFigures)
    : BalanceSeries where
  loan := loan.id
  isDemandLoan := product.isDemandLoan
  disbursementDate := loan.disbursementDate
  mode := mode
  outstanding := (figures.map (·.outstanding)).reverse
  repayments := (figures.map (·.repaid)).reverse

namespace SummaryBuilder

variable {builder : SummaryBuilder} {loan : Loan} {product : LoanProduct} {mode : SummaryMode}
  {log after : FetchLog}

theorem rule_keepsPlaces (builder : SummaryBuilder) (loan : Loan) (mode : SummaryMode)
    : (builder.rule loan mode).KeepsPlaces := by
  cases mode with
  | monthly => exact monthlyRule_keepsPlaces
  | daily => exact dailyRule_keepsPlaces _ _ _

/-- Whenever there are figures, there is the series of them: they are complete. -/
theorem runAfter_build
    : (builder.build loan product mode).runAfter log
      = ((builder.figures loan mode).runAfter log).map
          (Except.map (.ofFigures loan product mode)) id := by
  rw [build, Reading.runAfter_bind]
  rcases walk : (builder.figures loan mode).runAfter log with ⟨fault | figures, final⟩
  · rfl
  · have complete : figures.length = builder.period.months := by
      rw [length_of_summarise walk, ChargePeriod.length_windows]
    have series
        : builder.series loan product mode figures
          = .ok (.ofFigures loan product mode figures) := by
      simp [SummaryBuilder.series, BalanceSeries.ofBackward, BalanceSeries.length, complete,
        BalanceSeries.ofFigures, bind, Except.bind, pure, Except.pure]
    simp only [series]
    rfl

theorem exists_figures {series : BalanceSeries}
    (h : (builder.build loan product mode).runAfter log = (.ok series, after))
    : ∃ figures,
        (builder.figures loan mode).runAfter log = (.ok figures, after)
        ∧ series = .ofFigures loan product mode figures := by
  rw [runAfter_build] at h
  rcases walk : (builder.figures loan mode).runAfter log with ⟨fault | figures, final⟩
  · rw [walk] at h
    cases h
  · rw [walk] at h
    cases h
    exact ⟨figures, rfl, rfl⟩

/-- A series has as many balances and as many repayments as the period has months. -/
theorem length_of_build {series : BalanceSeries}
    (h : (builder.build loan product mode).runAfter log = (.ok series, after))
    : series.outstanding.length = builder.period.months
      ∧ series.repayments.length = builder.period.months := by
  obtain ⟨figures, walk, rfl⟩ := exists_figures h
  have complete : figures.length = builder.period.months := by
    rw [length_of_summarise walk, ChargePeriod.length_windows]
  simp [BalanceSeries.ofFigures, complete]

/-- The amounts of a series have at most the places kept if the balance of today has. -/
theorem settled_of_build {series : BalanceSeries} (settled : (mode.closingBalance loan).Settled)
    (h : (builder.build loan product mode).runAfter log = (.ok series, after))
    : (∀ m ∈ series.outstanding, m.Settled) ∧ ∀ m ∈ series.repayments, m.Settled := by
  obtain ⟨figures, walk, rfl⟩ := exists_figures h
  have places := settled_of_summarise (builder.rule_keepsPlaces loan mode) settled walk
  simp only [BalanceSeries.ofFigures, List.mem_reverse, List.mem_map]
  constructor
  · intro m listed
    obtain ⟨month, member, rfl⟩ := listed
    exact (places month member).1
  · intro m listed
    obtain ⟨month, member, rfl⟩ := listed
    exact (places month member).2

/-- With answers that do not depend on earlier requests a loan has one outcome. -/
theorem build_memoryless (memoryless : builder.source.Memoryless) (other : FetchLog)
    : ((builder.build loan product mode).runAfter log).1
      = ((builder.build loan product mode).runAfter other).1 := by
  rw [runAfter_build, runAfter_build]
  exact congrArg (Except.map _) (summarise_memoryless memoryless other)

end SummaryBuilder

end ChargeBasis

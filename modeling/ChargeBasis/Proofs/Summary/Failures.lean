import ChargeBasis.Proofs.Decimal.Quotients
import ChargeBasis.Proofs.Summary.Months

/-!
Where a summary can fail. The averages of a month always exist, a day follows every month, and the
figures of a walk are complete, so that apart from overflows only the source can keep a loan from
its series: the walk ends with the first error the source answers, unchanged.
-/

namespace ChargeBasis

-----------------------------------------------------------------------------------------
-- Averages
-----------------------------------------------------------------------------------------

/-- The number of days of a month is a decimal without places. -/
theorem MonthWindow.Whole.toRat_days {window : MonthWindow} (whole : window.Whole)
    : (Decimal.ofInt64 (.ofInt window.days)).toRat = window.days := by
  obtain ⟨lower, upper⟩ := whole.days_bounds
  have exact : (Int64.ofInt window.days).toInt = window.days :=
    Int64.toInt_ofInt_of_le (by omega) (by omega)
  rw [Decimal.toRat_ofInt64, exact]

/-- The average of a month always exists: the weighted sum over the number of days, brought to the
places that there is room for and rounded half up.
-/
theorem AveragingPolicy.exists_dailyAverage {window : MonthWindow} (whole : window.Whole)
    (places : Nat) (weightedSum : Money)
    : ∃ average,
        figure .dailyAverage places window weightedSum = .ok (.ofDecimal average)
        ∧ average.scale ≤ places
        ∧ average.toRat
          = Tie.awayFromZero.rounded places (Decimal.closest (weightedSum.toRat / window.days)) := by
  have days := whole.toRat_days
  have least : (28 : ℚ) ≤ window.days := by exact_mod_cast whole.days_bounds.1
  have several : 2 ≤ |(Decimal.ofInt64 (.ofInt window.days)).toRat| := by
    rw [days, abs_of_nonneg (by linarith)]
    linarith
  have divisor : (Decimal.ofInt64 (.ofInt window.days)).isZero = false :=
    Decimal.isZero_of_toRat_ne_zero (abs_pos.mp (by linarith))
  obtain ⟨average, divided, short, value⟩ :=
    weightedSum.amount.exists_divideHalfUp several places
  rw [days] at value
  refine ⟨average, ?_, short, value⟩
  rw [figure, Decimal.divideThenMultiply_none, if_neg (by simp [divisor]), divided]
  rfl

/-- There is a figure for every weighted sum of a month, and it is not larger than the sum: the
divisor outweighs what is added by rounding.
-/
theorem AveragingPolicy.exists_figure {window : MonthWindow} (whole : window.Whole)
    (policy : AveragingPolicy) (places : Nat) (weightedSum : Money)
    : ∃ figure,
        policy.figure places window weightedSum = .ok figure
        ∧ |figure.toRat| ≤ |weightedSum.toRat| := by
  cases policy with
  | weightedSum => exact ⟨weightedSum, rfl, le_refl _⟩
  | dailyAverage =>
      obtain ⟨average, formed, _, value⟩ := exists_dailyAverage whole places weightedSum
      refine ⟨.ofDecimal average, formed, ?_⟩
      have least : (28 : ℚ) ≤ window.days := by exact_mod_cast whole.days_bounds.1
      have rounded := average.abs_toRat_round_le .toEven Money.workingPlaces
      have divided :=
        Decimal.abs_rounded_closest_le .awayFromZero places (weightedSum.toRat / window.days)
      have share : 8 * |weightedSum.toRat / window.days| ≤ |weightedSum.toRat| := by
        rw [abs_div, abs_of_nonneg (by linarith : (0 : ℚ) ≤ window.days), ← mul_div_assoc,
          div_le_iff₀ (by linarith)]
        nlinarith [abs_nonneg weightedSum.toRat]
      rw [← value] at divided
      change |(average.round .toEven Money.workingPlaces).toRat| ≤ |weightedSum.toRat|
      linarith

-----------------------------------------------------------------------------------------
-- Rules
-----------------------------------------------------------------------------------------

/-- Summing up the month has no error but an overflow. -/
def MonthRule.OnlyOverflows (rule : MonthRule) (window : MonthWindow) : Prop :=
  ∀ balance transactions error, rule window balance transactions ≠ .error (.failed error)

theorem monthlyRule_onlyOverflows (window : MonthWindow)
    : monthlyRule.OnlyOverflows window := by
  intro balance transactions error
  refine Except.bind_ne_error (Except.mapError_overflowed_ne_failed _ error) fun _ => ?_
  refine Except.bind_ne_error (Except.mapError_overflowed_ne_failed _ error) fun _ => ?_
  nofun

/-- In a whole month that a day follows, weighing has no error but an overflow. -/
theorem weighWindow_ne_failed {window : MonthWindow} {follower : Date}
    (following : window.lastDay.next? = some follower) (disbursement : Date) (closing : Money)
    (byDay : DailyRepayments) (error : ChargeError)
    : weighWindow window disbursement closing byDay ≠ .error (.failed error) := by
  rw [weighWindow, WeighedBalance.start_eq_ok closing following]
  refine Except.bind_ne_error (fun same => by cases same) fun _ => ?_
  refine Except.bind_ne_error (Except.mapError_overflowed_ne_failed _ error) fun _ => ?_
  exact Except.mapError_overflowed_ne_failed _ error

theorem dailyRule_onlyOverflows {window : MonthWindow} (whole : window.Whole) {follower : Date}
    (following : window.lastDay.next? = some follower) (policy : AveragingPolicy) (places : Nat)
    (disbursement : Date)
    : (dailyRule policy places disbursement).OnlyOverflows window := by
  intro balance transactions error
  refine Except.bind_ne_error (Except.mapError_overflowed_ne_failed _ error) fun _ => ?_
  refine Except.bind_ne_error (Except.mapError_overflowed_ne_failed _ error) fun _ => ?_
  refine Except.bind_ne_error (weighWindow_ne_failed following _ _ _ error) fun weighed => ?_
  obtain ⟨figure, reported, _⟩ := policy.exists_figure whole places weighed.weightedSum
  rw [reported]
  nofun

/-- In every month of a period a rule has no error but an overflow. -/
theorem SummaryBuilder.rule_onlyOverflows (builder : SummaryBuilder) (loan : Loan)
    (mode : SummaryMode)
    : ∀ window ∈ builder.period.windows, (builder.rule loan mode).OnlyOverflows window := by
  intro window member
  cases mode with
  | monthly => exact monthlyRule_onlyOverflows window
  | daily =>
      have whole := (builder.period.monthsBackFrom_windows.forall_mem member).1
      obtain ⟨follower, following⟩ := ChargePeriod.exists_next?_lastDay member
      exact dailyRule_onlyOverflows whole following _ _ _

-----------------------------------------------------------------------------------------
-- Walks
-----------------------------------------------------------------------------------------

section Summarise

variable {source : TransactionSource} {rule : MonthRule} {loan : Loan}
  {windows : List MonthWindow} {balance : Money} {log after : FetchLog}

/-- Requests are only added to the log, by induction over the months. -/
theorem prefix_of_summarise {outcome : Except Fault (List MonthFigures)}
    (h : (summarise source rule loan windows balance).runAfter log = (outcome, after))
    : log <+: after := by
  induction windows generalizing balance log outcome with
  | nil =>
      cases h
      exact List.prefix_refl _
  | cons window earlier ih =>
      rcases summarise_cons_cases h with
        ⟨_, rest, walk, _⟩ | ⟨_, _, _, _, rfl⟩
        | ⟨_, _, _, ⟨_, _, _, rfl⟩ | ⟨_, opening, rest, _, walk, _⟩⟩
      · exact ih walk
      · exact List.prefix_append log _
      · exact List.prefix_append log _
      · exact (List.prefix_append log _).trans (ih walk)

/-- A walk that fails ends with the answer to its last request, if the rule has no error of its
own; by induction over the months.
-/
theorem summarise_failed (only : ∀ window ∈ windows, rule.OnlyOverflows window)
    {error : ChargeError}
    (h
      : (summarise source rule loan windows balance).runAfter log
        = (.error (.failed error), after))
    : ∃ window ∈ windows, ∃ earlier,
        log <+: earlier
        ∧ after = earlier ++ [loan.fetchIn window]
        ∧ source.answer earlier (loan.fetchIn window) = .error error := by
  induction windows generalizing balance log with
  | nil => cases h
  | cons window months ih =>
      have later : ∀ w ∈ months, rule.OnlyOverflows w := fun w member => only w (by simp [member])
      rcases summarise_cons_cases h with
        ⟨_, rest, walk, same⟩ | ⟨_, e, answer, same, asked⟩
        | ⟨_, _, _, ⟨fault, summed, same, _⟩ | ⟨_, opening, rest, _, walk, same⟩⟩
      · rcases rest with fault | figures
        · cases same
          obtain ⟨w, member, earlier, before, found⟩ := ih later walk
          exact ⟨w, by simp [member], earlier, before, found⟩
        · cases same
      · cases same
        exact ⟨window, by simp, log, List.prefix_refl log, asked, answer⟩
      · cases same
        exact absurd summed (only window (by simp) _ _ error)
      · rcases rest with fault | figures
        · cases same
          obtain ⟨w, member, earlier, before, found⟩ := ih later walk
          exact ⟨w, by simp [member], earlier, (List.prefix_append log _).trans before, found⟩
        · cases same

end Summarise

namespace SummaryBuilder

variable {builder : SummaryBuilder} {loan : Loan} {product : LoanProduct} {mode : SummaryMode}
  {log after : FetchLog}

theorem prefix_of_build {outcome : Except Fault BalanceSeries}
    (h : (builder.build loan product mode).runAfter log = (outcome, after))
    : log <+: after := by
  rw [runAfter_build] at h
  rcases walk : (builder.figures loan mode).runAfter log with ⟨figures, final⟩
  rw [walk] at h
  obtain ⟨_, rfl⟩ := Prod.mk.inj h
  exact prefix_of_summarise walk

/-- A series that could not be built is missing because of the answer to the last request. -/
theorem build_failed {error : ChargeError}
    (h : (builder.build loan product mode).runAfter log = (.error (.failed error), after))
    : ∃ window ∈ builder.period.windows, ∃ earlier,
        log <+: earlier
        ∧ after = earlier ++ [loan.fetchIn window]
        ∧ builder.source.answer earlier (loan.fetchIn window) = .error error := by
  rw [runAfter_build] at h
  rcases walk : (builder.figures loan mode).runAfter log with ⟨fault | figures, final⟩
  · rw [walk] at h
    cases h
    exact summarise_failed (builder.rule_onlyOverflows loan mode) walk
  · rw [walk] at h
    cases h

/-- A source that reports the history of a loan leaves only an overflow to keep it from its series.
-/
theorem exists_series {history : List LoanTransaction}
    (reports : builder.source.Reports loan.id history)
    (fits : ∀ kind, ((builder.build loan product mode).runAfter log).1 ≠ .error (.overflowed kind))
    : ∃ series after, (builder.build loan product mode).runAfter log = (.ok series, after) := by
  rcases built : (builder.build loan product mode).runAfter log
    with ⟨(error | kind) | series, after⟩
  · obtain ⟨window, _, earlier, _, _, answer⟩ := build_failed built
    obtain ⟨transactions, reported, _⟩ := reports earlier window.firstDay window.lastDay
    cases answer.symm.trans reported
  · rw [built] at fits
    exact absurd rfl (fits kind)
  · exact ⟨series, after, rfl⟩

end SummaryBuilder

end ChargeBasis

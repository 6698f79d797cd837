import ChargeBasis.Proofs.Summary.CarriedBalances
import ChargeBasis.Proofs.Summary.Failures
import ChargeBasis.Proofs.Summary.Reconstruction

/-!
Daily averages. An average is rounded three times, to the places that there is room for, to the
places asked for and to the places kept, but from a weighted sum that is not too large the result is
that of rounding once: a quotient by the days of a month is a half or clearly off it. Apart from its
own figure an average changes nothing in the walk.
-/

namespace ChargeBasis

-----------------------------------------------------------------------------------------
-- One average
-----------------------------------------------------------------------------------------

namespace MonthWindow

variable {window : MonthWindow} {places : ℕ} {weightedSum : Money}

/-- The average that is reported for the weighted sum of a month. -/
def averageOf (window : MonthWindow) (places : ℕ) (weightedSum : Money) : Money :=
  (AveragingPolicy.dailyAverage.figure places window weightedSum).toOption.getD .zero

theorem Whole.figure_eq (whole : window.Whole) (places : ℕ) (weightedSum : Money)
    : AveragingPolicy.dailyAverage.figure places window weightedSum
      = .ok (window.averageOf places weightedSum) := by
  obtain ⟨average, formed, _⟩ := AveragingPolicy.exists_dailyAverage whole places weightedSum
  rw [averageOf, formed]
  rfl

/-- There is room for eleven places behind seventeen digits. -/
theorem eleven_le_placesFor {v : ℚ} (nonneg : 0 ≤ v) (bound : v ≤ 10 ^ 17)
    : 11 ≤ Decimal.placesFor v := by
  apply Nat.le_findGreatest (by decide)
  rw [abs_of_nonneg nonneg]
  apply Tie.nearest_lt (by positivity)
  norm_num [tenPow, Decimal.limit] at bound ⊢
  linarith

/-- A half above the quotient of an amount by the days of a month is ahead of it by at least one
part in as many as the amount has units in twice the days.
-/
theorem halfway_gap {days units k : ℕ} {v : ℚ} (positive : 0 < days) (month : days ≤ 31)
    (few : places ≤ Money.workingPlaces)
    (exact : v * (days * tenPow Money.workingPlaces) = units)
    (above : v < Decimal.halfway places k)
    : 1 / 2 < (Decimal.halfway places k - v) * tenPow 11 := by
  have power := Decimal.tenPow_cast_pos places
  have divides : (0 : ℚ) < days := by exact_mod_cast positive
  have split := Decimal.tenPow_split few
  -- counted in twice the days and in the last place kept both are whole numbers
  have half
      : Decimal.halfway places k * (2 * (days * tenPow Money.workingPlaces))
        = ((2 * k + 1) * days * tenPow (Money.workingPlaces - places) : ℕ) := by
    rw [Decimal.halfway, split]
    push_cast
    field_simp
  have kept := Decimal.tenPow_cast_pos Money.workingPlaces
  have scale : (0 : ℚ) < 2 * (days * tenPow Money.workingPlaces) := by positivity
  have counted := mul_lt_mul_of_pos_right above scale
  have value : v * (2 * (days * tenPow Money.workingPlaces)) = (2 * units : ℕ) := by
    push_cast
    linarith
  rw [half, value] at counted
  have apart : ((2 * units : ℕ) : ℚ) + 1
      ≤ ((2 * k + 1) * days * tenPow (Money.workingPlaces - places) : ℕ) := by
    exact_mod_cast (by exact_mod_cast counted : 2 * units < _)
  have unit : 1 ≤ (Decimal.halfway places k - v) * (2 * (days * tenPow Money.workingPlaces)) := by
    rw [sub_mul, half, value]
    linarith
  have longest : (days : ℚ) ≤ 31 := by exact_mod_cast month
  have ahead : 0 < Decimal.halfway places k - v := by linarith
  have size : (2 : ℚ) * (days * tenPow Money.workingPlaces) < 2 * tenPow 11 := by
    norm_num [tenPow, Money.workingPlaces]
    linarith
  have further := mul_lt_mul_of_pos_left size ahead
  linarith

/-- An average is the exact one rounded once, half up, if the weighted sum is not too large. -/
theorem Whole.toRat_averageOf (whole : window.Whole) (few : places ≤ Money.workingPlaces)
    (settled : weightedSum.Settled) (bound : |weightedSum.toRat| ≤ 10 ^ 17)
    : (window.averageOf places weightedSum).toRat
      = Tie.awayFromZero.rounded places (weightedSum.toRat / window.days) := by
  obtain ⟨average, formed, short, value⟩ :=
    AveragingPolicy.exists_dailyAverage whole places weightedSum
  obtain ⟨least, most⟩ := whole.days_bounds
  obtain ⟨days, number⟩ := Int.eq_ofNat_of_zero_le (a := window.days) (by omega)
  have positive : (1 : ℚ) ≤ days := by exact_mod_cast (by omega : 1 ≤ days)
  have size : |weightedSum.toRat / window.days| = |weightedSum.toRat| / days := by
    rw [abs_div, number, Int.cast_natCast, Nat.abs_cast]
  have units
      : |weightedSum.toRat| / days * (days * tenPow Money.workingPlaces)
        = (weightedSum.amount.magnitude
            * tenPow (Money.workingPlaces - weightedSum.amount.scale) : ℕ) := by
    have power := Decimal.tenPow_cast_pos weightedSum.amount.scale
    rw [Money.toRat, Decimal.abs_toRat, Decimal.tenPow_split settled]
    push_cast
    field_simp
  have once
      : Tie.awayFromZero.rounded places (Decimal.closest (weightedSum.toRat / window.days))
        = Tie.awayFromZero.rounded places (weightedSum.toRat / window.days) := by
    apply Decimal.rounded_closest_of_abs
    rw [size]
    have nonneg : 0 ≤ |weightedSum.toRat| / days := by positivity
    have room := eleven_le_placesFor nonneg ((div_le_self (abs_nonneg _) positive).trans bound)
    have longer : (tenPow 11 : ℚ) ≤ tenPow (Decimal.placesFor (|weightedSum.toRat| / days)) := by
      exact_mod_cast Nat.pow_le_pow_right (by decide) room
    refine Decimal.rounded_closest_of_gap nonneg ?_ fun k above => ?_
    · unfold Money.workingPlaces at few
      omega
    · have gap := halfway_gap (by omega) (by omega) few units above
      exact gap.trans_le (mul_le_mul_of_nonneg_left longer (by linarith))
  rw [averageOf, formed]
  change (Money.ofDecimal average).toRat = _
  rw [Money.ofDecimal_of_scale_le (short.trans few)]
  exact value.trans once

end MonthWindow

-----------------------------------------------------------------------------------------
-- All months
-----------------------------------------------------------------------------------------

/-- The figures of a month with the average in the place of the weighted sum, unless the loan was
not running.
-/
def MonthFigures.averaged (month : MonthFigures) (loan : Loan) (places : ℕ)
    (window : MonthWindow)
    : MonthFigures :=
  if loan.startsAfter window then month
  else { month with outstanding := window.averageOf places month.outstanding }

/-- The averages of months beside the same balances. -/
def averageMonths (loan : Loan) (places : ℕ) (windows : List MonthWindow)
    (months : List (MonthFigures × Money))
    : List (MonthFigures × Money) :=
  List.zipWith (fun window month => (month.1.averaged loan places window, month.2)) windows months

section Walk

variable {source : TransactionSource} {loan : Loan} {window : MonthWindow}
  {windows : List MonthWindow} {balance : Money} {log : FetchLog}

/-- Averaging changes the figure of a month and neither its repayments nor the balance before it. -/
theorem dailyRule_dailyAverage (whole : window.Whole) (places other : ℕ) (disbursement : Date)
    (balance : Money) (transactions : List LoanTransaction)
    : dailyRule .dailyAverage places disbursement window balance transactions
      = (dailyRule .weightedSum other disbursement window balance transactions).map fun month =>
          ({ month.1 with outstanding := window.averageOf places month.1.outstanding },
            month.2) := by
  simp only [dailyRule, bind, Except.bind, liftM, monadLift, MonadLift.monadLift, pure, Except.pure]
  rcases DailyRepayments.ofTransactions transactions with kind | all
  · rfl
  · simp only [Except.mapError]
    rcases (all.onOrAfter (window.boundary disbursement)).total with kind | repaid
    · rfl
    · simp only
      rcases weighWindow window disbursement balance
        (all.onOrAfter (window.boundary disbursement)) with fault | weighed
      · rfl
      · simp only [whole.figure_eq]
        rfl

/-- Averaging runs in step with weighing, by induction over the months: the same requests are made
and the same balances carried on, with the same fault if there is one.
-/
theorem runAfter_averages (whole : ∀ window ∈ windows, window.Whole) (places other : ℕ)
    : (summariseCarrying source (dailyRule .dailyAverage places loan.disbursementDate) loan windows
          balance).runAfter log
      = ((summariseCarrying source (dailyRule .weightedSum other loan.disbursementDate) loan windows
            balance).runAfter log).map
          (Except.map (averageMonths loan places windows)) id := by
  induction windows generalizing balance log with
  | nil => rfl
  | cons window earlier ih =>
      obtain ⟨month, wholeEarlier⟩ := List.forall_mem_cons.mp whole
      rw [runAfter_summariseCarrying_cons, runAfter_summariseCarrying_cons]
      cases running : loan.startsAfter window with
      | true =>
          rw [if_pos rfl, if_pos rfl, ih wholeEarlier]
          rcases (summariseCarrying source (dailyRule .weightedSum other loan.disbursementDate) loan
            earlier balance).runAfter log with ⟨fault | rest, after⟩
          · rfl
          · simp [averageMonths, Except.map, MonthFigures.averaged, running]
      | false =>
          rw [if_neg Bool.false_ne_true, if_neg Bool.false_ne_true]
          rcases source.answer log (loan.fetchIn window) with error | transactions
          · rfl
          · simp only [dailyRule_dailyAverage month places other]
            rcases dailyRule .weightedSum other loan.disbursementDate window balance transactions
              with fault | ⟨figures, opening⟩
            · rfl
            · simp only [Except.map]
              rw [ih wholeEarlier]
              rcases (summariseCarrying source (dailyRule .weightedSum other loan.disbursementDate)
                loan earlier opening).runAfter (log ++ [loan.fetchIn window]) with
                ⟨fault | rest, after⟩
              · rfl
              · simp [averageMonths, Except.map, MonthFigures.averaged, running]

end Walk

/-- What an average leaves alone, and what it makes of the weighted sum of a month: the sum over the
days of the calendar month, rounded once to some places, a half going away from zero.
-/
structure AveragesMonth (loan : Loan) (places : ℕ) (window : MonthWindow)
    (month average : MonthFigures × Money)
    : Prop where
  carried : average.2 = month.2
  repaid : average.1.repaid = month.1.repaid
  idle : loan.startsAfter window = true → average.1 = month.1
  rounded
    : loan.startsAfter window = false
      → |month.1.outstanding.toRat| ≤ 10 ^ 17
      → average.1.outstanding.toRat
        = Tie.awayFromZero.rounded places
            (month.1.outstanding.toRat / window.firstDay.month.lengthIn window.firstDay.year)

theorem MonthWindow.Whole.averagesMonth {loan : Loan} {places : ℕ} {window : MonthWindow}
    {month : MonthFigures × Money} (whole : window.Whole) (few : places ≤ Money.workingPlaces)
    (settled : month.1.outstanding.Settled)
    : AveragesMonth loan places window month (month.1.averaged loan places window, month.2) where
  carried := rfl
  repaid := by
    simp only [MonthFigures.averaged]
    split <;> rfl
  idle := fun idle => if_pos idle
  rounded := by
    intro running bound
    have value := whole.toRat_averageOf few settled bound
    rw [whole.days_eq] at value
    simp only [MonthFigures.averaged, running, Bool.false_eq_true, if_false]
    exact value

namespace SummaryBuilder

/-- With daily averages a walk asks for the same transactions as with weighted sums, ends with the
same fault if there is one, and differs month by month only in the averages: what is repaid and what
is carried on to the month before are the same.
-/
theorem daily_averages_rounded (builder : SummaryBuilder) (loan : Loan) (log : FetchLog)
    (averaging : builder.averaging = .dailyAverage) (few : builder.averageScale.toNat ≤ 8)
    (settled : loan.principalOutstanding.Settled)
    : let weighing : SummaryBuilder := { builder with averaging := .weightedSum }
      (∃ fault after,
          (weighing.figures loan .daily).runAfter log = (.error fault, after)
          ∧ (builder.figures loan .daily).runAfter log = (.error fault, after))
      ∨ ∃ months averages after,
          (weighing.carrying loan .daily).runAfter log = (.ok months, after)
          ∧ (weighing.figures loan .daily).runAfter log = (.ok (months.map Prod.fst), after)
          ∧ (builder.carrying loan .daily).runAfter log = (.ok averages, after)
          ∧ (builder.figures loan .daily).runAfter log = (.ok (averages.map Prod.fst), after)
          ∧ months.length = builder.period.months
          ∧ averages.length = builder.period.months
          ∧ ∀ (i : ℕ) (window : MonthWindow) (month average : MonthFigures × Money),
              builder.period.windows[i]? = some window
              → months[i]? = some month
              → averages[i]? = some average
              → AveragesMonth loan builder.averageScale.toNat window month average := by
  intro weighing
  have whole : ∀ window ∈ builder.period.windows, window.Whole :=
    fun _ member => (builder.period.monthsBackFrom_windows.forall_mem member).1
  have inStep
      : (builder.carrying loan .daily).runAfter log
        = ((weighing.carrying loan .daily).runAfter log).map
            (Except.map
              (averageMonths loan builder.averageScale.toNat builder.period.windows)) id := by
    rw [carrying, rule, averaging]
    exact runAfter_averages whole _ _
  have sums := weighing.runAfter_figures loan .daily log
  have figures := builder.runAfter_figures loan .daily log
  rw [inStep] at figures ⊢
  rcases walk : (weighing.carrying loan .daily).runAfter log with ⟨fault | months, after⟩
  · rw [walk] at sums figures
    exact .inl ⟨fault, after, sums, figures⟩
  · rw [walk] at sums figures
    have length := length_of_summarise sums
    have averagesLength := length_of_summarise figures
    rw [List.length_map, ChargePeriod.length_windows] at length averagesLength
    refine .inr ⟨months, _, after, rfl, sums, rfl, figures, length, averagesLength, ?_⟩
    intro i window month average here reported averaged
    rw [averageMonths, List.getElem?_zipWith, here, reported] at averaged
    cases averaged
    have places :=
      settled_of_summarise (weighing.rule_keepsPlaces loan .daily) settled sums month.1
        (List.mem_map_of_mem (List.mem_of_getElem? reported))
    exact (whole window (List.mem_of_getElem? here)).averagesMonth few places.1

/-- In the sample quarter the averages are the weighted sums over the 31 days of March and the 29
days of February, to two places, and nothing for January.
-/
theorem daily_averages_rounded_sample
    : let builder : SummaryBuilder := ⟨Sample.quarter, Sample.ledger.source, .dailyAverage, 2⟩
      builder.averageScale.toNat ≤ 8
      ∧ Sample.loan.principalOutstanding.Settled
      ∧ ∃ march february january after,
          (builder.figures Sample.loan .daily).runAfter []
            = (.ok [march, february, january], after)
          ∧ march.outstanding.toRat
            = Tie.awayFromZero.rounded 2 ((30 * 835.5 + 800) / 31)
          ∧ february.outstanding.toRat
            = Tie.awayFromZero.rounded 2 ((5 * 955.5 + 10 * 835.5) / 29)
          ∧ january.outstanding.toRat = 0 := by
  have settled : Sample.loan.principalOutstanding.Settled := by decide +kernel
  have weighed
      : ((figures ⟨Sample.quarter, Sample.ledger.source, .weightedSum, 2⟩ Sample.loan
              .daily).runAfter []).1.map
          (List.map fun month => month.outstanding.toRat)
        = .ok [30 * 835.5 + 800, 5 * 955.5 + 10 * 835.5, 0] := by
    decide +kernel
  refine ⟨by decide, settled, ?_⟩
  rcases daily_averages_rounded ⟨Sample.quarter, Sample.ledger.source, .dailyAverage, 2⟩
      Sample.loan [] rfl (by decide) settled with
    ⟨fault, after, failed, _⟩
    | ⟨months, averages, after, _, sums, _, reported, length, averagesLength, each⟩
  · rw [failed] at weighed
    cases weighed
  · rw [sums] at weighed
    obtain ⟨third, second, first, rfl⟩ := List.length_eq_three.mp length
    obtain ⟨march, february, january, rfl⟩ := List.length_eq_three.mp averagesLength
    have values := Except.ok.inj weighed
    simp only [List.map_cons, List.map_nil, List.cons.injEq, and_true] at values
    obtain ⟨inMarch, inFebruary, inJanuary⟩ := values
    refine ⟨_, _, _, after, reported, ?_, ?_, ?_⟩
    · have average := (each 0 (.containing (Sample.day .march 31 (by decide))) third march
        (by decide +kernel) rfl rfl).rounded (by decide +kernel)
      rw [inMarch] at average
      exact average (by decide +kernel)
    · have average := (each 1 (.containing (Sample.day .february 1 (by decide))) second february
        (by decide +kernel) rfl rfl).rounded (by decide +kernel)
      rw [inFebruary] at average
      exact average (by decide +kernel)
    · have idle := (each 2 (.containing (Sample.day .january 1 (by decide))) first january
        (by decide +kernel) rfl rfl).idle (by decide +kernel)
      rw [idle]
      exact inJanuary

end SummaryBuilder

end ChargeBasis

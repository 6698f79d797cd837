import ChargeBasis.Proofs.Summary.RepaymentsByDay

/-!
The walk back through the days of a window. A balance that changes only on listed days is weighed
one stretch at a time, each from the day of a change up to the marker set at the change before,
and the stretches add up to one balance for each day.
-/

namespace ChargeBasis

-----------------------------------------------------------------------------------------
-- Sums over stretches of days
-----------------------------------------------------------------------------------------

/-- A stretch of days is summed in two parts. -/
theorem sum_stretch_split (balances : ℤ → ℚ) {first middle finish : ℤ} (front : first ≤ middle)
    (back : middle ≤ finish)
    : ∑ day ∈ Finset.Ico first finish, balances day
      = ∑ day ∈ Finset.Ico first middle, balances day
        + ∑ day ∈ Finset.Ico middle finish, balances day := by
  rw [← Finset.sum_union (Finset.Ico_disjoint_Ico_consecutive first middle finish),
    Finset.Ico_union_Ico_eq_Ico front back]

/-- A balance that does not change in a stretch of days counts once for each of them. -/
theorem sum_stretch_const {balances : ℤ → ℚ} {balance : ℚ} {first finish : ℤ}
    (ordered : first ≤ finish)
    (same : ∀ day, first ≤ day → day < finish → balances day = balance)
    : ∑ day ∈ Finset.Ico first finish, balances day = balance * (finish - first : ℤ) := by
  have constant
      : ∑ day ∈ Finset.Ico first finish, balances day
        = ∑ _day ∈ Finset.Ico first finish, balance :=
    Finset.sum_congr rfl fun day member =>
      same day (Finset.mem_Ico.mp member).1 (Finset.mem_Ico.mp member).2
  have days : (((finish - first).toNat : ℤ) : ℚ) = (finish - first : ℤ) := by
    rw [Int.toNat_of_nonneg (by omega)]
  rw [constant, Finset.sum_const, Int.card_Ico, nsmul_eq_mul, mul_comm, ← days]
  norm_cast

-----------------------------------------------------------------------------------------
-- Balances from day to day
-----------------------------------------------------------------------------------------

namespace DailyRepayments

/-- The balance at the end of a day, rebuilt from the one at the end of a last day: what is listed
for the days in between is still owed.
-/
def balanceAfter (byDay : DailyRepayments) (closing : ℚ) (last : Date) (day : Int)
    : ℚ :=
  closing + byDay.sumOn fun d => day < d.dayNumber ∧ d ≤ last

section BalanceAfter

variable {byDay : DailyRepayments} {closing : ℚ} {last : Date}

theorem balanceAfter_last
    : byDay.balanceAfter closing last last.dayNumber = closing := by
  rw [balanceAfter, sumOn_eq_zero, add_zero]
  intro entry _ days
  obtain ⟨after, before⟩ := days
  have upper : entry.1.dayNumber ≤ last.dayNumber := before
  omega

/-- The balance does not change over days that nothing is listed for. -/
theorem balanceAfter_quiet {day later : Int} (ordered : day ≤ later)
    (quiet : ∀ d ∈ byDay.days, day < d.dayNumber → later < d.dayNumber)
    : byDay.balanceAfter closing last day = byDay.balanceAfter closing last later := by
  rw [balanceAfter, balanceAfter]
  congr 1
  apply sumOn_congr
  intro entry member
  have listed := quiet entry.1 (List.mem_map_of_mem member)
  constructor
  · intro days
    obtain ⟨after, before⟩ := days
    exact ⟨listed after, before⟩
  · intro days
    obtain ⟨after, before⟩ := days
    exact ⟨by omega, before⟩

/-- Before a day the balance was higher by what is listed for the day. -/
theorem balanceAfter_before (closing : ℚ) (ascending : byDay.Ascending) {day : Date}
    {amount : Money}
    (found : byDay.lookup day = some amount) (within : day ≤ last)
    : byDay.balanceAfter closing last (day.dayNumber - 1)
      = byDay.balanceAfter closing last day.dayNumber + amount.toRat := by
  have inside : day.dayNumber ≤ last.dayNumber := within
  rw [balanceAfter, balanceAfter, ← ascending.sumOn_of_lookup found, add_assoc]
  congr 1
  apply sumOn_union
  · intro d
    rw [Date.eq_iff_dayNumber_eq]
    change day.dayNumber - 1 < d.dayNumber ∧ d.dayNumber ≤ last.dayNumber
      ↔ (day.dayNumber < d.dayNumber ∧ d.dayNumber ≤ last.dayNumber)
        ∨ d.dayNumber = day.dayNumber
    omega
  · intro d days
    obtain ⟨⟨after, _⟩, same⟩ := days
    rw [Date.eq_iff_dayNumber_eq] at same
    omega

end BalanceAfter

end DailyRepayments

/-- All values that arise while the balances of a stretch of days are weighed from the last day
back to the first are in range: the balances, the products of a balance and the days that it was
held for, with a change on none but the first of them, and the sums of the products.
-/
structure WeighingInRange (balances : ℤ → ℚ) (changes : ℤ → Prop) (first last : ℤ) : Prop where
  balance : ∀ day, first ≤ day → day ≤ last → Money.InRange (balances (day - 1))
  held
    : ∀ start finish,
        first ≤ start
        → start < finish
        → finish ≤ last + 1
        → (∀ day, start < day → day < finish → ¬ changes day)
        → Money.InRange (balances start * (finish - start : ℤ))
  sum
    : ∀ day,
        first ≤ day
        → Money.InRange (∑ n ∈ Finset.Ico day (last + 1), balances n)

/-- With the same balances and no fewer changes the values are in range, too. -/
theorem WeighingInRange.of_same {balances others : ℤ → ℚ} {changes otherChanges : ℤ → Prop}
    {first last : ℤ} (range : WeighingInRange balances changes first last)
    (same : ∀ day, first - 1 ≤ day → day ≤ last → others day = balances day)
    (kept : ∀ day, first < day → day ≤ last → changes day → otherChanges day)
    : WeighingInRange others otherChanges first last where
  balance := by
    intro day lower upper
    rw [same _ (by omega) (by omega)]
    exact range.balance day lower upper
  held := by
    intro start finish lower ordered upper unchanged
    rw [same _ (by omega) (by omega)]
    apply range.held start finish lower ordered upper
    intro day after before change
    exact unchanged day after before (kept day (by omega) (by omega) change)
  sum := by
    intro day lower
    rw [Finset.sum_congr rfl fun n member => by
      obtain ⟨after, before⟩ := Finset.mem_Ico.mp member
      exact same n (by omega) (by omega)]
    exact range.sum day lower

/-- The values are in range if a bound of all balances is for as many days as there are. -/
theorem WeighingInRange.of_bound {balances : ℤ → ℚ} {changes : ℤ → Prop} {first last : ℤ}
    {bound : ℚ} (bounded : ∀ day, |balances day| ≤ bound)
    (whole : (last + 1 - first : ℤ) * bound ≤ Money.exactLimit)
    : WeighingInRange balances changes first last := by
  have positive : 0 ≤ bound := (abs_nonneg _).trans (bounded first)
  have part (days : ℤ) (within : days ≤ last + 1 - first) : days * bound ≤ Money.exactLimit := by
    have fewer : (days : ℚ) ≤ (last + 1 - first : ℤ) := by exact_mod_cast within
    exact (mul_le_mul_of_nonneg_right fewer positive).trans whole
  refine { balance := ?_, held := ?_, sum := ?_ }
  · intro day lower upper
    have one := part 1 (by omega)
    rw [Int.cast_one, one_mul] at one
    exact (bounded _).trans one
  · intro start finish lower ordered upper _
    have days : (0 : ℚ) ≤ (finish - start : ℤ) := by exact_mod_cast (by omega : 0 ≤ finish - start)
    rw [Money.InRange, abs_mul, abs_of_nonneg days, mul_comm]
    exact (mul_le_mul_of_nonneg_left (bounded start) days).trans (part _ (by omega))
  · intro day lower
    rcases Int.lt_or_le last day with passed | within
    · rw [Finset.Ico_eq_empty (by omega), Finset.sum_empty]
      exact Money.inRange_zero
    · have days : (((last + 1 - day).toNat : ℤ) : ℚ) = (last + 1 - day : ℤ) := by
        rw [Int.toNat_of_nonneg (by omega)]
      calc |∑ n ∈ Finset.Ico day (last + 1), balances n|
          ≤ ∑ n ∈ Finset.Ico day (last + 1), |balances n| := Finset.abs_sum_le_sum_abs _ _
        _ ≤ (Finset.Ico day (last + 1)).card • bound :=
          Finset.sum_le_card_nsmul _ _ _ fun n _ => bounded n
        _ = (last + 1 - day : ℤ) * bound := by
          rw [Int.card_Ico, nsmul_eq_mul, ← days]
          norm_cast
        _ ≤ Money.exactLimit := part _ (by omega)

-----------------------------------------------------------------------------------------
-- The walk
-----------------------------------------------------------------------------------------

namespace WeighedBalance

/-- The days from one on are behind a walk: the balance at hand is the one before that day, the
balances from the marker on are in the sum, and nothing is listed between the day and the marker.
-/
structure HasPassed (state : WeighedBalance) (byDay : DailyRepayments) (closing : ℚ)
    (last : Date) (day : Int)
    : Prop where
  markerAbove : day ≤ state.dateMarker.dayNumber
  markerWithin : state.dateMarker.dayNumber ≤ last.dayNumber + 1
  quiet : ∀ d ∈ byDay.days, day ≤ d.dayNumber → state.dateMarker ≤ d
  balancePlaces : state.runningBalance.Settled
  balance : state.runningBalance.toRat = byDay.balanceAfter closing last (day - 1)
  sumPlaces : state.weightedSum.Settled
  sum
    : state.weightedSum.toRat
      = ∑ n ∈ Finset.Ico state.dateMarker.dayNumber (last.dayNumber + 1),
          byDay.balanceAfter closing last n

section Walk

variable {byDay : DailyRepayments} {closing : ℚ} {first : Int} {last : Date}
  {state : WeighedBalance}

theorem HasPassed.unlisted {day : Int} (passed : state.HasPassed byDay closing last day) {n : Int}
    (lower : day ≤ n) (upper : n < state.dateMarker.dayNumber)
    : ¬ ∃ d ∈ byDay.days, d.dayNumber = n := by
  intro change
  obtain ⟨d, listed, rfl⟩ := change
  have beyond : state.dateMarker.dayNumber ≤ d.dayNumber := passed.quiet d listed lower
  omega

/-- The balance at hand is the one after each of the days from before a day up to the marker. -/
theorem HasPassed.balance_held {day : Int} (passed : state.HasPassed byDay closing last day)
    {n : Int} (lower : day - 1 ≤ n) (upper : n < state.dateMarker.dayNumber)
    : byDay.balanceAfter closing last n = state.runningBalance.toRat := by
  rw [passed.balance]
  symm
  apply DailyRepayments.balanceAfter_quiet lower
  intro d listed after
  have beyond : state.dateMarker.dayNumber ≤ d.dayNumber := passed.quiet d listed (by omega)
  omega

/-- The balance at hand times the days from a day up to the marker is in range. -/
theorem HasPassed.held_inRange {passedDay : Int}
    (passed : state.HasPassed byDay closing last passedDay)
    (range
      : WeighingInRange (byDay.balanceAfter closing last)
          (fun n => ∃ d ∈ byDay.days, d.dayNumber = n) first last.dayNumber)
    {day : Date} (lower : first ≤ day.dayNumber) (next : passedDay - 1 ≤ day.dayNumber)
    (below : day.dayNumber ≤ state.dateMarker.dayNumber)
    : Money.InRange
        (state.runningBalance.toRat * (Date.daysBetween day state.dateMarker : ℤ)) := by
  rcases Int.lt_or_eq_of_le below with before | met
  · rw [← passed.balance_held next before]
    exact range.held _ _ lower before passed.markerWithin fun n after earlier =>
      passed.unlisted (by omega) earlier
  · rw [Date.daysBetween, met]
    simpa using Money.inRange_zero

/-- The balance is constant from a day up to the marker, so its product with the days between puts
the balances of these days into the sum.
-/
theorem HasPassed.sum_add_held {passedDay : Int}
    (passed : state.HasPassed byDay closing last passedDay) {day : Date}
    (next : passedDay - 1 ≤ day.dayNumber) (below : day.dayNumber ≤ state.dateMarker.dayNumber)
    : state.weightedSum.toRat
        + state.runningBalance.toRat * (Date.daysBetween day state.dateMarker : ℤ)
      = ∑ n ∈ Finset.Ico day.dayNumber (last.dayNumber + 1), byDay.balanceAfter closing last n := by
  rw [sum_stretch_split _ below passed.markerWithin,
    sum_stretch_const below fun n after before => passed.balance_held (by omega) before,
    ← passed.sum, add_comm, Date.daysBetween]

/-- Weighing the balance at hand from a day up to the marker puts the balances of the days from this
one on into the sum.
-/
theorem HasPassed.weigh_exact {passedDay : Int}
    (passed : state.HasPassed byDay closing last passedDay)
    (range
      : WeighingInRange (byDay.balanceAfter closing last)
          (fun n => ∃ d ∈ byDay.days, d.dayNumber = n) first last.dayNumber)
    {day : Date} (lower : first ≤ day.dayNumber) (next : passedDay - 1 ≤ day.dayNumber)
    (below : day.dayNumber ≤ state.dateMarker.dayNumber)
    : ∃ held sum,
        state.runningBalance.weightedByDays (Date.daysBetween day state.dateMarker) = .ok held
        ∧ state.weightedSum.add held = .ok sum
        ∧ sum.Settled
        ∧ sum.toRat
          = ∑ n ∈ Finset.Ico day.dayNumber (last.dayNumber + 1),
              byDay.balanceAfter closing last n := by
  have whole := passed.sum_add_held next below
  obtain ⟨held, weighed, heldSettled, heldValue⟩ :=
    Money.weightedByDays_exact passed.balancePlaces (passed.held_inRange range lower next below)
  obtain ⟨sum, added, sumSettled, sumValue⟩ :=
    Money.add_exact passed.sumPlaces heldSettled
      (by rw [heldValue, whole]; exact range.sum _ lower)
  exact ⟨held, sum, weighed, added, sumSettled, by rw [sumValue, heldValue, whole]⟩

/-- A day that nothing is listed for is passed without a change. -/
theorem HasPassed.skip {day : Date}
    (passed : state.HasPassed byDay closing last (day.dayNumber + 1)) (absent : day ∉ byDay.days)
    : state.HasPassed byDay closing last day.dayNumber := by
  have above := passed.markerAbove
  have quiet : ∀ d ∈ byDay.days, day.dayNumber ≤ d.dayNumber → day.dayNumber < d.dayNumber := by
    intro d listed after
    have different : d.dayNumber ≠ day.dayNumber :=
      fun same => absent (Date.dayNumber_injective same ▸ listed)
    omega
  exact { passed with
    markerAbove := by omega
    quiet := fun d listed after => passed.quiet d listed (quiet d listed after)
    balance := by
      rw [passed.balance, Int.add_sub_cancel]
      symm
      apply DailyRepayments.balanceAfter_quiet (by omega)
      intro d listed after
      exact quiet d listed (by omega)
  }

/-- A day that an amount is listed for becomes the marker: the balance from it up to the old marker
is weighed, and before it the amount was still owed.
-/
theorem HasPassed.repaid (ascending : byDay.Ascending) (settled : byDay.Settled)
    (range
      : WeighingInRange (byDay.balanceAfter closing last)
          (fun n => ∃ d ∈ byDay.days, d.dayNumber = n) first last.dayNumber)
    {day : Date} {amount : Money} (lower : first ≤ day.dayNumber)
    (passed : state.HasPassed byDay closing last (day.dayNumber + 1))
    (found : byDay.lookup day = some amount)
    : ∃ next,
        state.repaid day amount = .ok next
        ∧ next.HasPassed byDay closing last day.dayNumber := by
  have below : day.dayNumber < state.dateMarker.dayNumber := passed.markerAbove
  have inside : day.dayNumber ≤ last.dayNumber := by
    have upper := passed.markerWithin
    omega
  have balance := passed.balance_held (by omega) below
  have before := DailyRepayments.balanceAfter_before closing ascending found inside
  have amountSettled : amount.Settled :=
    settled (day, amount) (DailyRepayments.mem_of_lookup found)
  obtain ⟨held, sum, weighed, added, sumSettled, sumValue⟩ :=
    passed.weigh_exact range lower (by omega) (Int.le_of_lt below)
  obtain ⟨opening, undone, openingSettled, openingValue⟩ :=
    Money.add_exact passed.balancePlaces amountSettled
      (by rw [← balance, ← before]; exact range.balance _ lower inside)
  refine ⟨⟨opening, day, sum⟩, ?_, ?_⟩
  · simp only [WeighedBalance.repaid, weighed, undone, added, bind, Except.bind, pure,
      Except.pure]
  · exact {
      markerAbove := Int.le_refl _
      markerWithin := by
        change day.dayNumber ≤ last.dayNumber + 1
        omega
      quiet := fun d _ after => after
      balancePlaces := openingSettled
      balance := by rw [openingValue, before, balance]
      sumPlaces := sumSettled
      sum := sumValue
    }

/-- A visited day is behind the walk, whether or not something is listed for it. -/
theorem visit_exact (ascending : byDay.Ascending) (settled : byDay.Settled)
    (range
      : WeighingInRange (byDay.balanceAfter closing last)
          (fun n => ∃ d ∈ byDay.days, d.dayNumber = n) first last.dayNumber)
    {day : Date} (lower : first ≤ day.dayNumber)
    (passed : state.HasPassed byDay closing last (day.dayNumber + 1))
    : ∃ next,
        state.visit byDay day = .ok next ∧ next.HasPassed byDay closing last day.dayNumber := by
  rw [visit]
  cases found : byDay.lookup day with
  | none => exact ⟨state, rfl, passed.skip (DailyRepayments.not_mem_days_of_lookup found)⟩
  | some amount => exact passed.repaid ascending settled range lower found

/-- Visited days are behind the walk, by induction over them. -/
theorem visitAll_exact (ascending : byDay.Ascending) (settled : byDay.Settled)
    (range
      : WeighingInRange (byDay.balanceAfter closing last)
          (fun n => ∃ d ∈ byDay.days, d.dayNumber = n) first last.dayNumber)
    {days : List Date} {day : Int} (back : DaysBackFrom (day - 1) days)
    (lower : first ≤ day - days.length) (passed : state.HasPassed byDay closing last day)
    : ∃ final,
        state.visitAll byDay days = .ok final
        ∧ final.HasPassed byDay closing last (day - days.length) := by
  induction days generalizing day state with
  | nil => exact ⟨state, rfl, by simpa using passed⟩
  | cons visited earlier ih =>
      obtain ⟨number, rest⟩ := back
      rw [List.length_cons] at lower
      have here : day = visited.dayNumber + 1 := by omega
      subst here
      obtain ⟨next, step, nextPassed⟩ :=
        visit_exact ascending settled range (by omega) passed
      rw [Int.add_sub_cancel] at rest
      obtain ⟨final, walked, finalPassed⟩ := ih rest (by omega) nextPassed
      refine ⟨final, ?_, ?_⟩
      · rw [visitAll, List.foldlM_cons, step]
        exact walked
      · rw [List.length_cons]
        have count
            : visited.dayNumber + 1 - ((earlier.length + 1 : ℕ) : ℤ)
              = visited.dayNumber - earlier.length := by omega
        exact count ▸ finalPassed

/-- Closing weighs the stretch from the boundary up to the marker. -/
theorem close_exact
    (range
      : WeighingInRange (byDay.balanceAfter closing last)
          (fun n => ∃ d ∈ byDay.days, d.dayNumber = n) first last.dayNumber)
    {boundary : Date} (lower : first ≤ boundary.dayNumber)
    (passed : state.HasPassed byDay closing last boundary.dayNumber)
    : ∃ sum,
        state.close boundary = .ok ⟨state.runningBalance, boundary, sum⟩
        ∧ sum.Settled
        ∧ sum.toRat
          = ∑ n ∈ Finset.Ico boundary.dayNumber (last.dayNumber + 1),
              byDay.balanceAfter closing last n := by
  obtain ⟨held, sum, weighed, added, sumSettled, sumValue⟩ :=
    passed.weigh_exact range lower (by omega) passed.markerAbove
  refine ⟨sum, ?_, sumSettled, sumValue⟩
  simp only [close, weighed, added, bind, Except.bind, pure, Except.pure]

end Walk

end WeighedBalance

-----------------------------------------------------------------------------------------
-- Windows
-----------------------------------------------------------------------------------------

namespace MonthWindow

/-- The boundary is the later one of two days. -/
theorem dayNumber_boundary (window : MonthWindow) (disbursement : Date)
    : (window.boundary disbursement).dayNumber
      = max window.firstDay.dayNumber disbursement.dayNumber :=
  Date.dayNumber_max window.firstDay disbursement

/-- The days of a window down to its boundary are those of the plain walk down to it. -/
theorem daysDescending_boundary (window : MonthWindow) (disbursement : Date)
    : window.daysDescending (window.boundary disbursement)
      = .start window.lastDay (window.boundary disbursement) := by
  have same
      : max window.firstDay (window.boundary disbursement) = window.boundary disbursement := by
    apply Date.dayNumber_injective
    have twice := window.dayNumber_boundary (window.boundary disbursement)
    have once := window.dayNumber_boundary disbursement
    rw [MonthWindow.boundary] at twice
    omega
  rw [daysDescending, same]

/-- Behind the last day there is no day to visit. -/
theorem toList_daysDescending_of_beyond {window : MonthWindow} {disbursement : Date}
    (beyond : window.lastDay.dayNumber < (window.boundary disbursement).dayNumber)
    : (window.daysDescending (window.boundary disbursement)).toList = [] := by
  have past : ¬ window.boundary disbursement ≤ window.lastDay := Int.not_le.mpr beyond
  rw [window.daysDescending_boundary, DayWalk.toList_start_of_not_le past]

/-- The days of a window down to its boundary follow each other back from the last one, and before
them comes the boundary. If the boundary is behind the window, there are none.
-/
theorem daysBackFrom_boundary {window : MonthWindow} {disbursement : Date}
    (inside : (window.boundary disbursement).dayNumber ≤ window.lastDay.dayNumber + 1)
    : DaysBackFrom window.lastDay.dayNumber
        (window.daysDescending (window.boundary disbursement)).toList
      ∧ window.lastDay.dayNumber + 1
          - (window.daysDescending (window.boundary disbursement)).toList.length
        = (window.boundary disbursement).dayNumber := by
  by_cases some_day : window.boundary disbursement ≤ window.lastDay
  · obtain ⟨back, length⟩ := DayWalk.toList_start some_day
    rw [window.daysDescending_boundary]
    rw [Date.daysBetween] at length
    exact ⟨back, by omega⟩
  · have beyond : window.lastDay.dayNumber < (window.boundary disbursement).dayNumber :=
      Int.not_le.mp some_day
    rw [toList_daysDescending_of_beyond beyond]
    exact ⟨trivial, by simp only [List.length_nil]; omega⟩

end MonthWindow

namespace WeighedBalance

/-- The walk through a window starts behind its last day, with the balance at its end. -/
theorem hasPassed_start {window : MonthWindow} {closing : Money} (byDay : DailyRepayments)
    (places : closing.Settled) {follower : Date} (following : window.lastDay.next? = some follower)
    : HasPassed ⟨closing, follower, .zero⟩ byDay closing.toRat window.lastDay
        (window.lastDay.dayNumber + 1) := by
  have marker := Date.dayNumber_of_next? following
  exact {
    markerAbove := marker.ge
    markerWithin := marker.le
    quiet := fun d _ after => by
      change follower.dayNumber ≤ d.dayNumber
      omega
    balancePlaces := places
    balance := by rw [Int.add_sub_cancel, DailyRepayments.balanceAfter_last]
    sumPlaces := Money.settled_zero
    sum := by simp [marker]
  }

/-- The walk through a window passes its days down to the boundary. -/
theorem visitWindow_exact {window : MonthWindow} {disbursement : Date}
    {closing : ℚ} {byDay : DailyRepayments} {state : WeighedBalance}
    (ascending : byDay.Ascending) (settled : byDay.Settled)
    (inside : (window.boundary disbursement).dayNumber ≤ window.lastDay.dayNumber + 1)
    (range
      : WeighingInRange (byDay.balanceAfter closing window.lastDay)
          (fun n => ∃ d ∈ byDay.days, d.dayNumber = n)
          (window.boundary disbursement).dayNumber window.lastDay.dayNumber)
    (fresh : state.HasPassed byDay closing window.lastDay (window.lastDay.dayNumber + 1))
    : ∃ final,
        state.visitAll byDay (window.daysDescending (window.boundary disbursement)).toList
          = .ok final
        ∧ final.HasPassed byDay closing window.lastDay
            (window.boundary disbursement).dayNumber := by
  obtain ⟨back, count⟩ := window.daysBackFrom_boundary inside
  have passed :=
    visitAll_exact ascending settled range (by rwa [Int.add_sub_cancel]) count.ge fresh
  rwa [count] at passed

end WeighedBalance

/-- The walk through a window weighs one balance for each day from the boundary on, and goes back
to the balance before the boundary.
-/
theorem weighWindow_exact {window : MonthWindow} {disbursement : Date} {closing : Money}
    {byDay : DailyRepayments} (ascending : byDay.Ascending) (settled : byDay.Settled)
    (places : closing.Settled)
    (inside : (window.boundary disbursement).dayNumber ≤ window.lastDay.dayNumber + 1)
    {follower : Date} (following : window.lastDay.next? = some follower)
    (range
      : WeighingInRange (byDay.balanceAfter closing.toRat window.lastDay)
          (fun n => ∃ d ∈ byDay.days, d.dayNumber = n)
          (window.boundary disbursement).dayNumber window.lastDay.dayNumber)
    : ∃ weighed,
        weighWindow window disbursement closing byDay = .ok weighed
        ∧ weighed.runningBalance.Settled
        ∧ weighed.runningBalance.toRat
          = byDay.balanceAfter closing.toRat window.lastDay
              ((window.boundary disbursement).dayNumber - 1)
        ∧ weighed.dateMarker = window.boundary disbursement
        ∧ weighed.weightedSum.Settled
        ∧ weighed.weightedSum.toRat
          = ∑ n ∈ Finset.Ico (window.boundary disbursement).dayNumber
                (window.lastDay.dayNumber + 1),
              byDay.balanceAfter closing.toRat window.lastDay n := by
  have started := WeighedBalance.start_eq_ok closing following
  have fresh := WeighedBalance.hasPassed_start byDay places following
  obtain ⟨final, walked, passed⟩ :=
    WeighedBalance.visitWindow_exact ascending settled inside range fresh
  obtain ⟨sum, closed, sumSettled, sumValue⟩ := final.close_exact range (Int.le_refl _) passed
  refine ⟨⟨final.runningBalance, window.boundary disbursement, sum⟩, ?_, passed.balancePlaces,
    passed.balance, rfl, sumSettled, sumValue⟩
  simp only [weighWindow, started, walked, closed, bind, Except.bind, liftM, monadLift,
    MonadLift.monadLift, Except.mapError]

end ChargeBasis

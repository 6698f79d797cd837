import ChargeBasis.Proofs.Summary.Modes
import ChargeBasis.Proofs.Summary.Operations

/-!
Months without rounding. As long as the values that a mode forms for a month are in range, every
addition and every weighting of the month is exact: each starts from the exact sums and balances
that the ones before have left.
-/

namespace ChargeBasis

open Operation

-----------------------------------------------------------------------------------------
-- Repayments by day
-----------------------------------------------------------------------------------------

namespace DailyRepayments

/-- What is listed for a day is the exact sum of the day, by induction over the list. -/
theorem heldOn_exact {byDay : DailyRepayments} (ascending : byDay.Ascending)
    (settled : byDay.Settled) (day : Date)
    : (byDay.heldOn day).Settled ∧ (byDay.heldOn day).toRat = byDay.sumOn (· = day) := by
  induction byDay with
  | nil => exact ⟨Money.settled_zero, Money.toRat_zero⟩
  | cons entry rest ih =>
      obtain ⟨d, total⟩ := entry
      obtain ⟨later, restAscending⟩ := List.pairwise_cons.mp ascending
      obtain ⟨totalSettled, restSettled⟩ := List.forall_mem_cons.mp settled
      rw [heldOn, sumOn_cons]
      by_cases met : day = d
      · subst met
        rw [if_pos rfl, if_pos rfl, sumOn_eq_zero (ascending.absent (Int.le_refl day.dayNumber)),
          add_zero]
        exact ⟨totalSettled, rfl⟩
      · rw [if_neg met, if_neg (Ne.symm met), zero_add]
        split
        · next early =>
          rw [sumOn_eq_zero (ascending.absent (Int.le_of_lt early))]
          exact ⟨Money.settled_zero, Money.toRat_zero⟩
        · exact ih restAscending restSettled

/-- Transactions are listed by day without rounding if the sum of every day stays in range: a
repayment is added to the exact sum of the ones before it on its day.
-/
theorem exact_listingOperations {transactions : List LoanTransaction}
    (places : ∀ t ∈ transactions, t.principalPortion.Settled)
    (range
      : ∀ front, front <+: transactions
          → ∀ day, Money.InRange (repaidOn (·.principalPortion) front (· = day)))
    : ∀ operation ∈ listingOperations transactions, operation.Exact := by
  apply exact_ofFold
  intro front t back byDay split walked operation made
  rw [List.mem_singleton.mp made]
  -- the repayments before this one are those of the transactions before it
  obtain ⟨head, tail, rfl, rfl, rest⟩ := List.filter_eq_append_iff.mp split
  obtain ⟨skipped, others, rfl, idle, repays, _⟩ := List.filter_eq_cons_iff.mp rest
  have none : skipped.filter (·.isRepayment) = [] := List.filter_eq_nil_iff.mpr idle
  have before : head ++ skipped ++ [t] <+: head ++ (skipped ++ t :: others) :=
    ⟨others, by simp⟩
  obtain ⟨_, listed, tallies⟩ :=
    @ofTransactions_exact (head ++ skipped)
      (fun t member => places t (by simp only [List.mem_append] at member ⊢; tauto))
      fun front leading => range front (leading.trans ((List.prefix_append _ [t]).trans before))
  rw [ofTransactions, List.filter_append, none, List.append_nil] at listed
  cases listed.symm.trans walked
  obtain ⟨heldSettled, heldValue⟩ := heldOn_exact tallies.ascending tallies.settled t.date
  refine exact_addition heldSettled (places t (by simp)) ?_
  have next := range _ before t.date
  rw [repaidOn_append, ← tallies.sums, ← heldValue, repaidOn_cons] at next
  simpa [repays] using next

end DailyRepayments

-----------------------------------------------------------------------------------------
-- Weighing
-----------------------------------------------------------------------------------------

namespace WeighedBalance

section Walk

variable {byDay : DailyRepayments} {closing : ℚ} {first : Int} {last : Date}
  {state : WeighedBalance}

/-- The weighting of the balance at hand and the addition of the product to the sum are exact. -/
theorem HasPassed.exact_weighing {passedDay : Int}
    (passed : state.HasPassed byDay closing last passedDay)
    (range
      : WeighingInRange (byDay.balanceAfter closing last)
          (fun n => ∃ d ∈ byDay.days, d.dayNumber = n) first last.dayNumber)
    {day : Date} (lower : first ≤ day.dayNumber) (next : passedDay - 1 ≤ day.dayNumber)
    (below : day.dayNumber ≤ state.dateMarker.dayNumber)
    : (weighting state.runningBalance (Date.daysBetween day state.dateMarker)).Exact
      ∧ ∀ held,
          (weighting state.runningBalance (Date.daysBetween day state.dateMarker)).result = .ok held
          → (addition state.weightedSum held).Exact := by
  have heldInRange := passed.held_inRange range lower next below
  refine ⟨exact_weighting passed.balancePlaces heldInRange, ?_⟩
  intro held weighed
  obtain ⟨_, result, settled, value⟩ :=
    Money.weightedByDays_exact passed.balancePlaces heldInRange
  cases weighed.symm.trans result
  refine exact_addition passed.sumPlaces settled ?_
  rw [value, passed.sum_add_held next below]
  exact range.sum _ lower

/-- A visited day takes exact operations, whether or not something is listed for it. -/
theorem exact_visitOperations (ascending : byDay.Ascending) (settled : byDay.Settled)
    (range
      : WeighingInRange (byDay.balanceAfter closing last)
          (fun n => ∃ d ∈ byDay.days, d.dayNumber = n) first last.dayNumber)
    {day : Date} (lower : first ≤ day.dayNumber)
    (passed : state.HasPassed byDay closing last (day.dayNumber + 1))
    : ∀ operation ∈ state.visitOperations byDay day, operation.Exact := by
  rw [visitOperations]
  cases found : byDay.lookup day with
  | none => nofun
  | some amount =>
      have below : day.dayNumber < state.dateMarker.dayNumber := passed.markerAbove
      have inside : day.dayNumber ≤ last.dayNumber := by
        have upper := passed.markerWithin
        omega
      obtain ⟨weighing, counting⟩ :=
        passed.exact_weighing range lower (by omega) (Int.le_of_lt below)
      have balance := passed.balance_held (by omega) below
      have before := DailyRepayments.balanceAfter_before closing ascending found inside
      have undoing : (addition state.runningBalance amount).Exact :=
        exact_addition passed.balancePlaces
          (settled (day, amount) (DailyRepayments.mem_of_lookup found))
          (by rw [← balance, ← before]; exact range.balance _ lower inside)
      refine exact_making weighing fun held weighed => ?_
      refine exact_making undoing fun _ _ => ?_
      exact List.forall_mem_singleton.mpr (counting held weighed)

/-- Visited days take exact operations, by induction over them. -/
theorem exact_visitAllOperations (ascending : byDay.Ascending) (settled : byDay.Settled)
    (range
      : WeighingInRange (byDay.balanceAfter closing last)
          (fun n => ∃ d ∈ byDay.days, d.dayNumber = n) first last.dayNumber)
    {days : List Date} {day : Int} (back : DaysBackFrom (day - 1) days)
    (lower : first ≤ day - days.length) (passed : state.HasPassed byDay closing last day)
    : ∀ operation ∈ state.visitAllOperations byDay days, operation.Exact := by
  induction days generalizing day state with
  | nil => nofun
  | cons visited earlier ih =>
      obtain ⟨number, rest⟩ := back
      rw [List.length_cons] at lower
      have here : day = visited.dayNumber + 1 := by omega
      subst here
      rw [Int.add_sub_cancel] at rest
      obtain ⟨_, step, nextPassed⟩ :=
        visit_exact ascending settled range (by omega) passed
      refine List.forall_mem_append.mpr
        ⟨exact_visitOperations ascending settled range (by omega) passed, ?_⟩
      refine exact_following fun next visit => ?_
      cases step.symm.trans visit
      exact ih rest (by omega) nextPassed

theorem exact_closeOperations
    (range
      : WeighingInRange (byDay.balanceAfter closing last)
          (fun n => ∃ d ∈ byDay.days, d.dayNumber = n) first last.dayNumber)
    {boundary : Date} (lower : first ≤ boundary.dayNumber)
    (passed : state.HasPassed byDay closing last boundary.dayNumber)
    : ∀ operation ∈ state.closeOperations boundary, operation.Exact := by
  obtain ⟨weighing, counting⟩ :=
    passed.exact_weighing range lower (by omega) passed.markerAbove
  exact exact_making weighing fun held weighed =>
    List.forall_mem_singleton.mpr (counting held weighed)

end Walk

end WeighedBalance

/-- The balances of a window are weighed without rounding. -/
theorem exact_weighingOperations {window : MonthWindow} {disbursement : Date} {closing : Money}
    {byDay : DailyRepayments} (ascending : byDay.Ascending) (settled : byDay.Settled)
    (places : closing.Settled)
    (inside : (window.boundary disbursement).dayNumber ≤ window.lastDay.dayNumber + 1)
    {follower : Date} (following : window.lastDay.next? = some follower)
    (range
      : WeighingInRange (byDay.balanceAfter closing.toRat window.lastDay)
          (fun n => ∃ d ∈ byDay.days, d.dayNumber = n)
          (window.boundary disbursement).dayNumber window.lastDay.dayNumber)
    : ∀ operation ∈ weighingOperations window disbursement closing byDay, operation.Exact := by
  have fresh := WeighedBalance.hasPassed_start byDay places following
  obtain ⟨back, count⟩ := window.daysBackFrom_boundary inside
  obtain ⟨_, walked, passed⟩ :=
    WeighedBalance.visitWindow_exact ascending settled inside range fresh
  rw [weighingOperations, WeighedBalance.start_eq_ok closing following]
  refine List.forall_mem_append.mpr ⟨?_, ?_⟩
  · exact WeighedBalance.exact_visitAllOperations ascending settled range
      (by rwa [Int.add_sub_cancel]) count.ge fresh
  · refine exact_following fun final visited => ?_
    cases walked.symm.trans visited
    exact WeighedBalance.exact_closeOperations range (Int.le_refl _) passed

-----------------------------------------------------------------------------------------
-- Rules
-----------------------------------------------------------------------------------------

/-- The monthly mode takes exact operations if all of its sums are in range. -/
theorem exact_monthlyOperations {balance : Money} {transactions : List LoanTransaction}
    (settled : balance.Settled) (places : ∀ t ∈ transactions, t.amount.Settled)
    (range : MonthlyInRange balance.toRat transactions)
    : ∀ operation ∈ monthlyOperations balance transactions, operation.Exact := by
  have repaidPlaces
      : ∀ m ∈ (transactions.filter (·.isRepayment)).map (·.amount), m.Settled := by
    intro m member
    obtain ⟨t, kept, rfl⟩ := List.mem_map.mp member
    exact places t (List.mem_filter.mp kept).1
  have sums
      : Money.PartialSumsInRange
          (((transactions.filter (·.isRepayment)).map (·.amount)).map Money.toRat) := by
    simpa [Function.comp_def] using range.repaid
  refine List.forall_mem_append.mpr ⟨Money.exact_additions repaidPlaces sums, ?_⟩
  refine exact_following fun repaid summed => ?_
  obtain ⟨_, total, repaidSettled, value⟩ := Money.sum_exact repaidPlaces sums
  cases summed.symm.trans total
  refine List.forall_mem_singleton.mpr (exact_addition settled repaidSettled ?_)
  have opening := range.opening
  rw [repaidOn_all] at opening
  rw [value, List.map_map]
  exact opening

/-- The daily mode takes exact operations if all of its values are in range. -/
theorem exact_dailyOperations {window : MonthWindow} {disbursement periodEnd : Date}
    {closing balance : Money} {history transactions : List LoanTransaction}
    (settled : balance.Settled) (places : ∀ t ∈ history, t.principalPortion.Settled)
    (within : window.lastDay ≤ periodEnd)
    (started : (window.boundary disbursement).dayNumber ≤ window.lastDay.dayNumber + 1)
    {follower : Date} (following : window.lastDay.next? = some follower)
    (answer
      : transactions.Perm
          (history.filter fun t => window.firstDay ≤ t.date ∧ t.date ≤ window.lastDay))
    (exact
      : balance.toRat
        = balanceAt closing (·.principalPortion) history periodEnd window.lastDay.dayNumber)
    (range
      : DailyInRange window disbursement
          (balanceAt closing (·.principalPortion) history periodEnd) transactions)
    : ∀ operation ∈ dailyOperations disbursement window balance transactions,
        operation.Exact := by
  have placesHere : ∀ t ∈ transactions, t.principalPortion.Settled :=
    fun t member => places t (List.mem_of_mem_filter (answer.mem_iff.mp member))
  obtain ⟨_, listed, allTallies⟩ :=
    DailyRepayments.ofTransactions_exact placesHere range.byDay
  have tallies := allTallies.onOrAfter (window.boundary disbursement)
  refine List.forall_mem_append.mpr
    ⟨DailyRepayments.exact_listingOperations placesHere range.byDay, ?_⟩
  refine exact_following fun all same => ?_
  cases listed.symm.trans same
  refine List.forall_mem_append.mpr
    ⟨Money.exact_additions tallies.settled_amounts
      (tallies.partialSumsInRange range.repaid_onOrAfter), ?_⟩
  refine exact_following fun _ _ => ?_
  exact exact_weighingOperations tallies.ascending tallies.settled settled started following
    (range.weighing_byDay tallies (balanceAfter_eq_balanceAt answer tallies within exact))

end ChargeBasis

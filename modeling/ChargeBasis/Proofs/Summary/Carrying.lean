import ChargeBasis.Proofs.Summary.CarriedBalances
import ChargeBasis.Proofs.Summary.ExactOperations
import ChargeBasis.Proofs.Summary.Requests

/-!
What is carried from month to month. In the daily mode the balance that goes on to the month before
grows by what is reported as repaid and by nothing else, wherever the transactions are dated: those
before the first day that counts are left out of both, and on the days that count every repayment is
met once.
-/

namespace ChargeBasis

open Operation

-----------------------------------------------------------------------------------------
-- Operations in range
-----------------------------------------------------------------------------------------

/-- The values of all operations are in range. -/
def AllInRange (operations : List Operation) : Prop :=
  ∀ operation ∈ operations, Money.InRange operation.value

section AllInRange

variable {ε α : Type} {operation : Operation} {front back : List Operation}

theorem allInRange_append
    : AllInRange (front ++ back) ↔ AllInRange front ∧ AllInRange back :=
  List.forall_mem_append

theorem allInRange_cons
    : AllInRange (operation :: back) ↔ Money.InRange operation.value ∧ AllInRange back :=
  List.forall_mem_cons

theorem AllInRange.of_following {outcome : Except ε α} {more : α → List Operation} {a : α}
    (range : AllInRange (following outcome more)) (value : outcome = .ok a)
    : AllInRange (more a) := by
  subst value
  exact range

theorem allInRange_singleton
    : AllInRange [operation] ↔ Money.InRange operation.value :=
  List.forall_mem_singleton

end AllInRange

namespace Money

theorem add_of_inRange {a b : Money} (ha : a.Settled) (hb : b.Settled)
    (range : InRange (addition a b).value)
    : ∃ c, a.add b = .ok c ∧ c.Settled ∧ c.toRat = a.toRat + b.toRat :=
  add_exact ha hb range

theorem weightedByDays_of_inRange {a : Money} {days : ℤ} (ha : a.Settled)
    (range : InRange (weighting a days).value)
    : ∃ c, a.weightedByDays days = .ok c ∧ c.Settled ∧ c.toRat = a.toRat * days :=
  weightedByDays_exact ha range

/-- Adding amounts whose sums on the way are in range is exact, by induction over the amounts. -/
theorem foldlM_add_of_inRange {start : Money} {amounts : List Money} (settled : start.Settled)
    (places : ∀ m ∈ amounts, m.Settled)
    (range : AllInRange (ofFold add (fun total amount => [.addition total amount]) start amounts))
    : ∃ total,
        amounts.foldlM add start = .ok total
        ∧ total.Settled
        ∧ total.toRat = start.toRat + (amounts.map toRat).sum := by
  induction amounts generalizing start with
  | nil => exact ⟨start, rfl, settled, by simp⟩
  | cons m rest ih =>
      obtain ⟨here, placesRest⟩ := List.forall_mem_cons.mp places
      obtain ⟨first, later⟩ := allInRange_append.mp range
      obtain ⟨next, added, nextSettled, value⟩ :=
        add_of_inRange settled here (allInRange_singleton.mp first)
      obtain ⟨total, folded, totalSettled, sum⟩ :=
        ih nextSettled placesRest (later.of_following added)
      refine ⟨total, ?_, totalSettled, ?_⟩
      · rw [List.foldlM_cons, added]
        exact folded
      · rw [sum, value, List.map_cons, List.sum_cons, add_assoc]

end Money

-----------------------------------------------------------------------------------------
-- One month
-----------------------------------------------------------------------------------------

namespace DailyRepayments

/-- Transactions are listed by day, by induction over those that are still to be listed. -/
theorem Tallies.foldlM_of_inRange {byDay : DailyRepayments}
    {listed transactions : List LoanTransaction} (tallies : byDay.Tallies listed)
    (places : ∀ t ∈ transactions, t.principalPortion.Settled)
    (range
      : AllInRange
          (ofFold (fun (byDay : DailyRepayments) t => byDay.repay t.date t.principalPortion)
            (fun byDay t => [.addition (byDay.heldOn t.date) t.principalPortion]) byDay
            (transactions.filter (·.isRepayment))))
    : ∃ after,
        (transactions.filter (·.isRepayment)).foldlM
            (fun (byDay : DailyRepayments) t => byDay.repay t.date t.principalPortion) byDay
          = .ok after
        ∧ after.Tallies (listed ++ transactions) := by
  induction transactions generalizing byDay listed with
  | nil => exact ⟨byDay, rfl, by rwa [List.append_nil]⟩
  | cons t rest ih =>
      obtain ⟨here, placesRest⟩ := List.forall_mem_cons.mp places
      rw [List.append_cons]
      cases repays : t.isRepayment with
      | false =>
          rw [List.filter_cons_of_neg (by simp [repays])] at range ⊢
          exact ih (tallies.skip repays) placesRest range
      | true =>
          rw [List.filter_cons_of_pos repays] at range ⊢
          obtain ⟨first, later⟩ := allInRange_append.mp range
          have sum : Money.InRange (repaidOn (·.principalPortion) (listed ++ [t]) (· = t.date)) := by
            have held := heldOn_exact tallies.ascending tallies.settled t.date
            have value := allInRange_singleton.mp first
            rw [Operation.value, held.2, tallies.sums] at value
            rw [repaidOn_append, repaidOn_cons]
            simpa [repays] using value
          obtain ⟨next, repaid, nextTallies⟩ := tallies.repay repays here sum
          rw [List.foldlM_cons, repaid]
          exact ih nextTallies placesRest (later.of_following repaid)

end DailyRepayments

namespace WeighedBalance

variable {state : WeighedBalance} {byDay : DailyRepayments}

/-- Undoing a repayment weighs the balance at hand from its day up to the marker, raises the balance
by the amount and moves the marker to the day.
-/
theorem repaid_of_inRange (settled : state.Settled) {day : Date} {amount : Money}
    (places : amount.Settled) (range : AllInRange (state.repaidOperations day amount))
    : ∃ opening sum,
        state.repaid day amount = .ok ⟨opening, day, sum⟩
        ∧ Settled ⟨opening, day, sum⟩
        ∧ opening.toRat = state.runningBalance.toRat + amount.toRat
        ∧ sum.toRat
          = state.weightedSum.toRat
            + state.runningBalance.toRat * (Date.daysBetween day state.dateMarker : ℤ) := by
  obtain ⟨balanceSettled, sumSettled⟩ := settled
  obtain ⟨weighing, afterWeighing⟩ := allInRange_cons.mp range
  obtain ⟨held, weighed, heldSettled, heldValue⟩ :=
    Money.weightedByDays_of_inRange balanceSettled weighing
  obtain ⟨undoing, afterUndoing⟩ := allInRange_cons.mp (afterWeighing.of_following weighed)
  obtain ⟨opening, undone, openingSettled, value⟩ :=
    Money.add_of_inRange balanceSettled places undoing
  obtain ⟨sum, added, nextSettled, total⟩ :=
    Money.add_of_inRange sumSettled heldSettled
      (allInRange_singleton.mp (afterUndoing.of_following undone))
  refine ⟨opening, sum, ?_, ⟨openingSettled, nextSettled⟩, value, by rw [total, heldValue]⟩
  simp only [repaid, weighed, undone, added, bind, Except.bind, pure, Except.pure]

/-- A visited day raises the balance at hand by what is listed for the day. -/
theorem visit_carries (settled : state.Settled) (ascending : byDay.Ascending)
    (places : byDay.Settled) {day : Date} (range : AllInRange (state.visitOperations byDay day))
    : ∃ next,
        state.visit byDay day = .ok next
        ∧ next.Settled
        ∧ next.runningBalance.toRat
          = state.runningBalance.toRat + byDay.sumOn (· = day) := by
  rw [visitOperations] at range
  rw [visit]
  cases found : byDay.lookup day with
  | none =>
      refine ⟨state, rfl, settled, ?_⟩
      rw [DailyRepayments.sumOn_eq_zero, add_zero]
      intro entry member same
      exact DailyRepayments.not_mem_days_of_lookup found (same ▸ List.mem_map_of_mem member)
  | some amount =>
      rw [found] at range
      obtain ⟨opening, sum, undone, nextSettled, value, _⟩ :=
        repaid_of_inRange settled (places _ (DailyRepayments.mem_of_lookup found)) range
      refine ⟨_, undone, nextSettled, ?_⟩
      rw [value, ascending.sumOn_of_lookup found]

/-- Visited days raise the balance at hand by what is listed for them, by induction over the days.
-/
theorem visitAll_carries (settled : state.Settled) (ascending : byDay.Ascending)
    (places : byDay.Settled) {days : List Date} {last : ℤ} (back : DaysBackFrom last days)
    (range : AllInRange (state.visitAllOperations byDay days))
    : ∃ final,
        state.visitAll byDay days = .ok final
        ∧ final.Settled
        ∧ final.runningBalance.toRat
          = state.runningBalance.toRat
            + byDay.sumOn (fun d => last - days.length < d.dayNumber ∧ d.dayNumber ≤ last) := by
  induction days generalizing last state with
  | nil =>
      refine ⟨state, rfl, settled, ?_⟩
      rw [DailyRepayments.sumOn_eq_zero, add_zero]
      intro entry _ inside
      simp only [List.length_nil] at inside
      omega
  | cons day earlier ih =>
      obtain ⟨rfl, rest⟩ := back
      obtain ⟨first, later⟩ := allInRange_append.mp range
      obtain ⟨next, visited, nextSettled, value⟩ := visit_carries settled ascending places first
      obtain ⟨final, walked, finalSettled, sum⟩ :=
        ih nextSettled rest (later.of_following visited)
      refine ⟨final, ?_, finalSettled, ?_⟩
      · rw [visitAll, List.foldlM_cons, visited]
        exact walked
      · rw [sum, value, add_assoc]
        congr 1
        symm
        apply DailyRepayments.sumOn_union
        · intro d
          rw [Date.eq_iff_dayNumber_eq, List.length_cons]
          omega
        · intro d days
          obtain ⟨same, ⟨_, before⟩⟩ := days
          rw [Date.eq_iff_dayNumber_eq] at same
          omega

/-- Closing weighs the balance at hand from the boundary up to the marker. -/
theorem close_of_inRange (settled : state.Settled) {boundary : Date}
    (range : AllInRange (state.closeOperations boundary))
    : ∃ sum,
        state.close boundary = .ok ⟨state.runningBalance, boundary, sum⟩
        ∧ sum.toRat
          = state.weightedSum.toRat
            + state.runningBalance.toRat * (Date.daysBetween boundary state.dateMarker : ℤ) := by
  obtain ⟨weighing, afterWeighing⟩ := allInRange_cons.mp range
  obtain ⟨held, weighed, heldSettled, heldValue⟩ :=
    Money.weightedByDays_of_inRange settled.1 weighing
  obtain ⟨sum, added, _, total⟩ :=
    Money.add_of_inRange settled.2 heldSettled
      (allInRange_singleton.mp (afterWeighing.of_following weighed))
  refine ⟨sum, ?_, by rw [total, heldValue]⟩
  simp only [close, weighed, added, bind, Except.bind, pure, Except.pure]

end WeighedBalance

section Month

variable {window : MonthWindow} {disbursement follower : Date} {balance : Money}

/-- The walk through a window raises the balance by what is listed from the boundary to the last
day.
-/
theorem weighWindow_carries {byDay : DailyRepayments} (settled : balance.Settled)
    (ascending : byDay.Ascending) (places : byDay.Settled)
    (inside : (window.boundary disbursement).dayNumber ≤ window.lastDay.dayNumber + 1)
    (following : window.lastDay.next? = some follower)
    (range : AllInRange (weighingOperations window disbursement balance byDay))
    : ∃ weighed,
        weighWindow window disbursement balance byDay = .ok weighed
        ∧ weighed.runningBalance.Settled
        ∧ weighed.runningBalance.toRat
          = balance.toRat
            + byDay.sumOn
                (fun d => window.boundary disbursement ≤ d ∧ d ≤ window.lastDay) := by
  have started := WeighedBalance.start_eq_ok balance following
  obtain ⟨back, count⟩ := window.daysBackFrom_boundary inside
  obtain ⟨walking, closing⟩ := allInRange_append.mp (range.of_following started)
  obtain ⟨final, walked, finalSettled, value⟩ :=
    WeighedBalance.visitAll_carries ⟨settled, Money.settled_zero⟩ ascending places back walking
  obtain ⟨sum, closed, _⟩ :=
    WeighedBalance.close_of_inRange finalSettled (closing.of_following walked)
  refine ⟨⟨final.runningBalance, window.boundary disbursement, sum⟩, ?_, finalSettled.1, ?_⟩
  · simp only [weighWindow, started, walked, closed, bind, Except.bind, liftM, monadLift,
      MonadLift.monadLift, Except.mapError]
  · rw [value]
    congr 1
    apply DailyRepayments.sumOn_congr
    intro entry _
    change _ ↔ (window.boundary disbursement).dayNumber ≤ entry.1.dayNumber
      ∧ entry.1.dayNumber ≤ window.lastDay.dayNumber
    omega

/-- The daily rule raises the balance by what it reports as repaid, unless a transaction is dated
after the month.
-/
theorem dailyRule_carries (policy : AveragingPolicy) (scale : Nat) (whole : window.Whole)
    (inside : (window.boundary disbursement).dayNumber ≤ window.lastDay.dayNumber + 1)
    (following : window.lastDay.next? = some follower) (settled : balance.Settled)
    {transactions : List LoanTransaction}
    (places : ∀ t ∈ transactions, t.principalPortion.Settled)
    (dated : ∀ t ∈ transactions, t.date ≤ window.lastDay)
    (range : AllInRange (dailyOperations disbursement window balance transactions))
    : ∃ month opening,
        dailyRule policy scale disbursement window balance transactions = .ok (month, opening)
        ∧ opening.Settled
        ∧ opening.toRat = balance.toRat + month.repaid.toRat := by
  obtain ⟨listing, later⟩ := allInRange_append.mp range
  obtain ⟨all, listed, allTallies⟩ :=
    DailyRepayments.tallies_nil.foldlM_of_inRange places listing
  have tallies := allTallies.onOrAfter (window.boundary disbursement)
  obtain ⟨adding, weighing⟩ := allInRange_append.mp (later.of_following listed)
  obtain ⟨repaid, summed, _, repaidValue⟩ :=
    Money.foldlM_add_of_inRange Money.settled_zero tallies.settled_amounts adding
  obtain ⟨weighed, walked, openingSettled, openingValue⟩ :=
    weighWindow_carries settled tallies.ascending tallies.settled inside following
      (weighing.of_following summed)
  obtain ⟨figure, averaged, _⟩ := policy.exists_figure whole scale weighed.weightedSum
  refine ⟨⟨figure, repaid⟩, weighed.runningBalance, ?_, openingSettled, ?_⟩
  · have listed' : DailyRepayments.ofTransactions transactions = .ok all := listed
    have summed' : (all.onOrAfter (window.boundary disbursement)).total = .ok repaid := summed
    simp only [dailyRule, listed', summed', walked, averaged, bind, Except.bind, liftM, monadLift,
      MonadLift.monadLift, Except.mapError, pure, Except.pure]
  · -- every listed day counts: none is before the boundary, and none is after the month
    rw [openingValue, repaidValue, Money.toRat_zero, zero_add, List.map_map]
    congr 1
    rw [DailyRepayments.sumOn_congr (q := fun _ => True), DailyRepayments.sumOn_all]
    · rfl
    · intro entry member
      obtain ⟨t, kept, _, same⟩ := (tallies.days entry.1).mp (List.mem_map_of_mem member)
      simp only [List.nil_append, List.mem_filter, decide_eq_true_eq] at kept
      exact iff_true_intro ⟨same ▸ kept.2, same ▸ dated t kept.1⟩

end Month

-----------------------------------------------------------------------------------------
-- All months
-----------------------------------------------------------------------------------------

section Walk

variable {source : TransactionSource} {loan : Loan} {window : MonthWindow}
  {windows : List MonthWindow} {balance : Money} {log : FetchLog}

/-- What the source answers for a month has at most the places kept and is not dated after the
month.
-/
def Loan.AnswersUpTo (loan : Loan) (source : TransactionSource) (window : MonthWindow) : Prop :=
  ∀ log transactions,
    source.answer log (loan.fetchIn window) = .ok transactions
    → ∀ t ∈ transactions, t.principalPortion.Settled ∧ t.date ≤ window.lastDay

/-- A walk from a balance makes its requests without an overflow and carries on, from month to
month, what it reports as repaid.
-/
structure CarriesBack (source : TransactionSource) (log : FetchLog) (requests : List Fetch)
    (balance : Money) (run : Except Fault (List (MonthFigures × Money)) × FetchLog)
    : Prop where
  polls : source.Polls log requests run.1 run.2
  fits : ∀ kind, run.1 ≠ .error (.overflowed kind)
  carries : ∀ months, run.1 = .ok months → Carries balance months

theorem CarriesBack.nil
    : CarriesBack source log [] balance (.ok [], log) where
  polls := by
    have none : source.Polls log [] (.ok ([] : List (MonthFigures × Money))) (log ++ []) :=
      .answered [] rfl
    rwa [List.append_nil] at none
  fits := by
    intro kind overflow
    cases overflow
  carries := by
    intro months none
    cases none
    trivial

/-- A refused request ends the walk. -/
theorem CarriesBack.refused {request : Fetch} {later : List Fetch} {error : ChargeError}
    (answer : source.answer log request = .error error)
    : CarriesBack source log (request :: later) balance
        (.error (.failed error), log ++ [request]) where
  polls := by
    rw [← TransactionSource.asked_of_error answer]
    exact .refused error (TransactionSource.refusal?_of_error answer)
  fits := by
    intro kind overflow
    cases overflow
  carries := by
    intro months success
    cases success

/-- One more month at the front is carried through by whatever carries the months behind it. -/
theorem CarriesBack.map {requests before : List Fetch} {start : FetchLog} {opening : Money}
    {run : Except Fault (List (MonthFigures × Money)) × FetchLog} {figures : MonthFigures}
    (back : CarriesBack source log requests opening run)
    (polls
      : source.Polls log requests (run.1.map ((figures, opening) :: ·)) run.2
        → source.Polls start before (run.1.map ((figures, opening) :: ·)) run.2)
    (grown : opening.toRat = balance.toRat + figures.repaid.toRat)
    : CarriesBack source start before balance
        (run.map (Except.map ((figures, opening) :: ·)) id) where
  polls := polls (back.polls.map _)
  fits := by
    intro kind overflow
    rcases outcome : run.1 with fault | months
    · rw [Prod.map_fst, outcome] at overflow
      exact back.fits kind (outcome.trans (congrArg Except.error (Except.error.inj overflow)))
    · rw [Prod.map_fst, outcome] at overflow
      cases overflow
  carries := by
    intro months outcome
    obtain ⟨rest, value, rfl⟩ := Except.map_eq_ok_iff.mp outcome
    exact ⟨grown, back.carries rest value⟩

/-- The daily rule carries back what it reports through all months, by induction over them. -/
theorem summariseCarrying_carries (policy : AveragingPolicy) (scale : Nat)
    (whole : ∀ window ∈ windows, window.Whole)
    (following : ∀ window ∈ windows, ∃ follower, window.lastDay.next? = some follower)
    (answers : ∀ window ∈ windows, loan.AnswersUpTo source window) (settled : balance.Settled)
    (range
      : AllInRange
          (summariseOperations source (dailyRule policy scale loan.disbursementDate)
            (dailyOperations loan.disbursementDate) loan windows balance log))
    : CarriesBack source log (loan.requestsIn windows) balance
        ((summariseCarrying source (dailyRule policy scale loan.disbursementDate) loan windows
          balance).runAfter log) := by
  induction windows generalizing balance log with
  | nil => exact .nil
  | cons window earlier ih =>
      obtain ⟨month, wholeEarlier⟩ := List.forall_mem_cons.mp whole
      obtain ⟨⟨follower, next⟩, followingEarlier⟩ := List.forall_mem_cons.mp following
      obtain ⟨upTo, answersEarlier⟩ := List.forall_mem_cons.mp answers
      rw [summariseOperations] at range
      rw [runAfter_summariseCarrying_cons]
      cases running : loan.startsAfter window with
      | true =>
          rw [if_pos running] at range
          rw [if_pos rfl, Loan.requestsIn_of_startsAfter running]
          refine (ih wholeEarlier followingEarlier answersEarlier settled range).map id ?_
          simp [MonthFigures.none]
      | false =>
          rw [if_neg (by simp [running])] at range
          rw [if_neg Bool.false_ne_true, Loan.requestsIn_of_running running]
          rcases answer : source.answer log (loan.fetchIn window) with error | transactions
          · exact .refused answer
          · have before : loan.disbursementDate.dayNumber < window.lastDay.dayNumber := by
              rw [Loan.startsAfter, decide_eq_false_iff_not] at running
              exact Int.not_le.mp running
            have boundary := window.dayNumber_boundary loan.disbursementDate
            have days := month.first_le_last
            obtain ⟨here, later⟩ := allInRange_append.mp (range.of_following answer)
            obtain ⟨figures, opening, summed, openingSettled, grown⟩ :=
              dailyRule_carries policy scale month (by omega) next settled
                (fun t member => (upTo log transactions answer t member).1)
                (fun t member => (upTo log transactions answer t member).2) here
            simp only [summed]
            exact (ih wholeEarlier followingEarlier answersEarlier openingSettled
              (later.of_following summed)).map (·.cons answer) grown

end Walk

namespace SummaryBuilder

/-- In the daily mode a source that answers nothing after the days asked for, in whatever order and
from however long before, either refuses or gets every month reported with the repayments by which
the balance carried on grows. In the end the balance is the principal of today and all repayments
reported.
-/
theorem daily_carries_repayments (builder : SummaryBuilder) (loan : Loan) (log : FetchLog)
    (settled : loan.principalOutstanding.Settled)
    (answers : ∀ window ∈ builder.period.windows, loan.AnswersUpTo builder.source window)
    (range : AllInRange (builder.operations loan .daily log))
    : match builder.source.refusal? log (loan.requestsIn builder.period.windows) with
      | some error =>
          ((builder.figures loan .daily).runAfter log).1 = .error (.failed error)
      | none =>
          ∃ months after,
            (builder.carrying loan .daily).runAfter log = (.ok months, after)
            ∧ (builder.figures loan .daily).runAfter log = (.ok (months.map Prod.fst), after)
            ∧ months.length = builder.period.months
            ∧ (∀ later figures opening earlier,
                months = later ++ (figures, opening) :: earlier
                → opening.toRat
                  = (carriedOn loan.principalOutstanding later).toRat + figures.repaid.toRat)
            ∧ (carriedOn loan.principalOutstanding months).toRat
              = loan.principalOutstanding.toRat
                + (months.map fun month => month.1.repaid.toRat).sum := by
  have whole : ∀ window ∈ builder.period.windows, window.Whole :=
    fun _ member => (builder.period.monthsBackFrom_windows.forall_mem member).1
  have back
      : CarriesBack builder.source log (loan.requestsIn builder.period.windows)
          loan.principalOutstanding ((builder.carrying loan .daily).runAfter log) :=
    summariseCarrying_carries builder.averaging builder.averageScale.toNat whole
      (fun _ member => ChargePeriod.exists_next?_lastDay member) answers settled range
  have figures := builder.runAfter_figures loan .daily log
  generalize (builder.carrying loan .daily).runAfter log = run at back figures ⊢
  obtain ⟨outcome, after⟩ := run
  obtain ⟨polls, fits, carries⟩ := back
  rcases outcome with fault | months
  · cases polls with
    | refused error first =>
        rw [first]
        exact congrArg Prod.fst figures
    | overflowed kind part => exact absurd rfl (fits kind)
  · cases polls with
    | answered _ all =>
        have carried : Carries loan.principalOutstanding months := carries months rfl
        have length := length_of_summarise figures
        rw [List.length_map, ChargePeriod.length_windows] at length
        rw [all]
        refine ⟨months, _, rfl, figures, length, ?_, carried.toRat_carriedOn⟩
        intro later month opening earlier split
        rw [split] at carried
        exact carried.at_month

/-- A source that answers all that was recorded up to the last of the days asked for. -/
def Sample.upToLastDay : TransactionSource :=
  ⟨fun _ request => .ok (Sample.transactions.filter fun t => t.date ≤ request.last)⟩

/-- Asked from such a source, only the repayments of the months after disbursement are carried. -/
theorem daily_carries_repayments_sample
    : let builder : SummaryBuilder := ⟨Sample.quarter, Sample.upToLastDay, .weightedSum, 2⟩
      Sample.loan.principalOutstanding.Settled
      ∧ (∀ window ∈ builder.period.windows, Sample.loan.AnswersUpTo builder.source window)
      ∧ AllInRange (builder.operations Sample.loan .daily [])
      ∧ ∃ months after,
          (builder.figures Sample.loan .daily).runAfter [] = (.ok (months.map Prod.fst), after)
          ∧ (carriedOn Sample.loan.principalOutstanding months).toRat
            = 800 + (months.map fun month => month.1.repaid.toRat).sum
          ∧ months.map (fun month => month.1.repaid.toRat) = [35.5, 120, 0] := by
  have settled : Sample.loan.principalOutstanding.Settled := by decide +kernel
  have answers
      : ∀ window ∈ Sample.quarter.windows, Sample.loan.AnswersUpTo Sample.upToLastDay window := by
    intro window _ log transactions answer t member
    have recorded : ∀ t ∈ Sample.transactions, t.principalPortion.Settled := by decide +kernel
    cases answer
    obtain ⟨listed, dated⟩ := List.mem_filter.mp member
    exact ⟨recorded t listed, decide_eq_true_iff.mp dated⟩
  have range
      : AllInRange
          (operations ⟨Sample.quarter, Sample.upToLastDay, .weightedSum, 2⟩ Sample.loan .daily
            []) := by
    unfold AllInRange Money.InRange
    decide +kernel
  have carried :=
    daily_carries_repayments ⟨Sample.quarter, Sample.upToLastDay, .weightedSum, 2⟩ Sample.loan []
      settled answers range
  have answered
      : Sample.upToLastDay.refusal? [] (Sample.loan.requestsIn Sample.quarter.windows) = none := by
    decide +kernel
  simp only [answered] at carried
  obtain ⟨months, after, _, figures, _, _, total⟩ := carried
  have reported
      : ((SummaryBuilder.figures ⟨Sample.quarter, Sample.upToLastDay, .weightedSum, 2⟩ Sample.loan
            .daily).runAfter []).1.map (List.map fun month => month.repaid.toRat)
        = .ok [35.5, 120, 0] := by
    decide +kernel
  rw [figures] at reported
  have principal : Sample.loan.principalOutstanding.toRat = 800 := by decide +kernel
  refine ⟨settled, answers, range, months, after, figures, principal ▸ total, ?_⟩
  have listed := Except.ok.inj reported
  rwa [List.map_map] at listed

end SummaryBuilder

end ChargeBasis

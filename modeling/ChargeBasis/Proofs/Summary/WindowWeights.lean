import ChargeBasis.Proofs.Summary.DailyBalances

/-!
What a window weighs for any day of disbursement. Days before the disbursement are not visited and
weigh nothing as long as the disbursement is at most the day after the window. Behind that day the
walk is empty but the closing step is not: it weighs the balance for the days that the boundary is
ahead of the marker, with the opposite sign.
-/

namespace ChargeBasis

namespace MonthWindow

/-- The days that the boundary is ahead of the day after the window, none for most boundaries. -/
def daysAhead (window : MonthWindow) (disbursement follower : Date) : ℤ :=
  max 0 (Date.daysBetween follower (window.boundary disbursement))

end MonthWindow

section Windows

variable {window : MonthWindow} {disbursement follower : Date} {closing : Money}
  {byDay : DailyRepayments}

/-- Behind the day after the window nothing is visited, and closing weighs the balance with the
opposite sign.
-/
theorem weighWindow_of_beyond (following : window.lastDay.next? = some follower)
    (beyond : window.lastDay.dayNumber + 1 < (window.boundary disbursement).dayNumber)
    (places : closing.Settled)
    (range
      : Money.InRange
          (closing.toRat * (window.daysAhead disbursement follower : ℤ)))
    : ∃ sum,
        weighWindow window disbursement closing byDay
          = .ok ⟨closing, window.boundary disbursement, sum⟩
        ∧ sum.toRat = -(closing.toRat * (window.daysAhead disbursement follower : ℤ)) := by
  have number := Date.dayNumber_of_next? following
  have ahead
      : Date.daysBetween (window.boundary disbursement) follower
        = -window.daysAhead disbursement follower := by
    rw [MonthWindow.daysAhead, Date.daysBetween, Date.daysBetween]
    omega
  have opposite
      : closing.toRat * (Date.daysBetween (window.boundary disbursement) follower : ℤ)
        = -(closing.toRat * (window.daysAhead disbursement follower : ℤ)) := by
    rw [ahead]
    push_cast
    ring
  have inRange
      : Money.InRange
          (closing.toRat * (Date.daysBetween (window.boundary disbursement) follower : ℤ)) := by
    rw [opposite, Money.InRange, abs_neg]
    exact range
  obtain ⟨held, weighed, heldSettled, heldValue⟩ := Money.weightedByDays_exact places inRange
  obtain ⟨sum, added, _, sumValue⟩ :=
    Money.add_exact Money.settled_zero heldSettled (by rwa [heldValue, Money.toRat_zero, zero_add])
  have unvisited : (window.daysDescending (window.boundary disbursement)).toList = [] :=
    MonthWindow.toList_daysDescending_of_beyond (by omega)
  refine ⟨sum, ?_, by rw [sumValue, heldValue, Money.toRat_zero, zero_add, opposite]⟩
  simp only [weighWindow, WeighedBalance.start_eq_ok closing following, unvisited,
    WeighedBalance.visitAll, List.foldlM_nil, WeighedBalance.close, weighed, added, bind,
    Except.bind, pure, Except.pure, liftM, monadLift, MonadLift.monadLift, Except.mapError]

/-- Whatever the day of disbursement, a window weighs the balances of its days from the disbursement
on, less the balance at its end for the days that the disbursement is ahead of the day after it, and
goes back to the balance before these days.
-/
theorem weighWindow_weighs (following : window.lastDay.next? = some follower)
    (places : closing.Settled) (ascending : byDay.Ascending) (settled : byDay.Settled)
    (range
      : WeighingInRange (byDay.balanceAfter closing.toRat window.lastDay)
          (fun n => ∃ d ∈ byDay.days, d.dayNumber = n)
          (window.boundary disbursement).dayNumber window.lastDay.dayNumber)
    (rangeAhead
      : Money.InRange (closing.toRat * (window.daysAhead disbursement follower : ℤ)))
    : ∃ weighed,
        weighWindow window disbursement closing byDay = .ok weighed
        ∧ weighed.dateMarker = window.boundary disbursement
        ∧ weighed.runningBalance.toRat
          = closing.toRat
              + byDay.sumOn (fun d => window.boundary disbursement ≤ d ∧ d ≤ window.lastDay)
        ∧ weighed.weightedSum.toRat
          = ∑ day ∈ Finset.Icc window.firstDay.dayNumber window.lastDay.dayNumber
                with disbursement.dayNumber ≤ day,
              (closing.toRat + byDay.sumOn (fun d => day < d.dayNumber ∧ d ≤ window.lastDay))
            - closing.toRat * (window.daysAhead disbursement follower : ℤ) := by
  have number := Date.dayNumber_of_next? following
  have boundary := window.dayNumber_boundary disbursement
  by_cases inside : (window.boundary disbursement).dayNumber ≤ window.lastDay.dayNumber + 1
  · have level : window.daysAhead disbursement follower = 0 := by
      rw [MonthWindow.daysAhead, Date.daysBetween]
      omega
    obtain ⟨weighed, walked, _, balance, marker, _, sum⟩ :=
      weighWindow_exact ascending settled places inside following range
    refine ⟨weighed, walked, marker, ?_, ?_⟩
    · rw [balance, DailyRepayments.balanceAfter]
      congr 1
      apply DailyRepayments.sumOn_congr
      intro entry _
      change (window.boundary disbursement).dayNumber - 1 < entry.1.dayNumber
          ∧ entry.1.dayNumber ≤ window.lastDay.dayNumber
        ↔ (window.boundary disbursement).dayNumber ≤ entry.1.dayNumber
          ∧ entry.1.dayNumber ≤ window.lastDay.dayNumber
      omega
    · rw [sum, level, sum_days_running]
      simp [DailyRepayments.balanceAfter]
  · have beyond : window.lastDay.dayNumber + 1 < (window.boundary disbursement).dayNumber := by
      omega
    obtain ⟨sum, walked, value⟩ := weighWindow_of_beyond following beyond places rangeAhead
    refine ⟨_, walked, rfl, ?_, ?_⟩
    · rw [DailyRepayments.sumOn_eq_zero, add_zero]
      rintro entry _ ⟨after, before⟩
      have lower : (window.boundary disbursement).dayNumber ≤ entry.1.dayNumber := after
      have upper : entry.1.dayNumber ≤ window.lastDay.dayNumber := before
      omega
    · rw [value, sum_days_running, Finset.Ico_eq_empty (by omega), Finset.sum_empty, zero_sub]

/-- A loan of which 1000 are owed at the end of March, disbursed on the tenth and with 50 of it
repaid on the fifteenth.
-/
theorem weighWindow_weighs_march
    : ∃ weighed,
        weighWindow (.containing (Sample.day .march 10 (by decide)))
            (Sample.day .march 10 (by decide)) (.ofMajor 1000)
            [(Sample.day .march 15 (by decide), .ofMajor 50)]
          = .ok weighed
        ∧ weighed.dateMarker = Sample.day .march 10 (by decide)
        ∧ weighed.runningBalance.toRat = 1050
        ∧ weighed.weightedSum.toRat = 5 * 1050 + 17 * 1000 := by
  have bounded : ∀ n : ℤ,
      |DailyRepayments.balanceAfter [(Sample.day .march 15 (by decide), .ofMajor 50)]
        (Money.ofMajor 1000).toRat
        (MonthWindow.containing (Sample.day .march 10 (by decide))).lastDay n| ≤ 1050 := by
    intro n
    have thousand : (Money.ofMajor 1000).toRat = 1000 := by decide +kernel
    have fifty : (Money.ofMajor 50).toRat = 50 := by decide +kernel
    rw [DailyRepayments.balanceAfter, DailyRepayments.sumOn_cons, thousand, fifty]
    split <;> norm_num
  have places
      : DailyRepayments.Settled [(Sample.day .march 15 (by decide), .ofMajor 50)] := by
    unfold DailyRepayments.Settled
    decide +kernel
  have level
      : Money.InRange
          ((Money.ofMajor 1000).toRat
            * (MonthWindow.daysAhead (.containing (Sample.day .march 10 (by decide)))
                (Sample.day .march 10 (by decide)) (Sample.day .april 1 (by decide)) : ℤ)) := by
    unfold Money.InRange
    decide +kernel
  obtain ⟨weighed, walked, marker, balance, sum⟩ :=
    @weighWindow_weighs (.containing (Sample.day .march 10 (by decide)))
      (Sample.day .march 10 (by decide)) (Sample.day .april 1 (by decide)) (.ofMajor 1000)
      [(Sample.day .march 15 (by decide), .ofMajor 50)] (by decide +kernel) (by decide +kernel)
      (List.pairwise_singleton _ _) places (.of_bound bounded (by decide +kernel)) level
  exact ⟨weighed, walked, marker, balance.trans (by decide +kernel),
    sum.trans (by decide +kernel)⟩

/-- A window that lies wholly before the disbursement does not always weigh nothing: 100 that are
owed at the end of March weigh -200 for a disbursement on the third of April.
-/
theorem not_forall_weighWindow_weighs_days
    : ¬∀ (window : MonthWindow) (disbursement follower : Date) (closing : Money)
          (byDay : DailyRepayments) (weighed : WeighedBalance),
        window.Whole →
        window.lastDay.next? = some follower →
        closing.Settled →
        byDay.Ascending →
        byDay.Settled →
        (∀ day : ℤ, Money.InRange (31 * byDay.balanceAfter closing.toRat window.lastDay day)) →
        weighWindow window disbursement closing byDay = .ok weighed →
        weighed.weightedSum.toRat
          = ∑ day ∈ Finset.Icc window.firstDay.dayNumber window.lastDay.dayNumber
                with disbursement.dayNumber ≤ day,
              (closing.toRat
                + byDay.sumOn (fun d => day < d.dayNumber ∧ d ≤ window.lastDay)) := by
  intro days
  have whole : (MonthWindow.containing (Sample.day .march 31 (by decide))).Whole :=
    (MonthWindow.whole_containing rfl).1
  have settled : DailyRepayments.Settled [] := fun _ member => by cases member
  have value := days (.containing (Sample.day .march 31 (by decide)))
    (Sample.day .april 3 (by decide)) (Sample.day .april 1 (by decide)) (.ofMajor 100) []
    ⟨.ofMajor 100, Sample.day .april 3 (by decide), .ofMajor (-200)⟩ whole (by decide +kernel)
    (by decide +kernel) List.Pairwise.nil settled ?_ (by decide +kernel)
  · exact absurd value (by decide +kernel)
  · intro day
    rw [DailyRepayments.balanceAfter, DailyRepayments.sumOn_nil, Money.InRange]
    decide +kernel

end Windows

end ChargeBasis

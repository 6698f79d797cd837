import ChargeBasis.Proofs.Summary.Carrying

/-!
Repayments undone in any order. A repayment is weighed from its day up to the marker that the one
before has set, forwards or backwards. What closing the walk on a boundary would come to grows with
every repayment by its amount, counted from the boundary to its day, wherever the marker stands; so
in the end only the amounts and their days count, and not their order.
-/

namespace ChargeBasis

open Operation

namespace WeighedBalance

variable {state : WeighedBalance}

/-- Undoes repayments one after another. -/
def repaidAll (state : WeighedBalance) (repayments : List (Date × Money))
    : Except Overflow WeighedBalance :=
  repayments.foldlM (fun state repayment => state.repaid repayment.1 repayment.2) state

def repaidAllOperations (state : WeighedBalance) (repayments : List (Date × Money))
    : List Operation :=
  ofFold (fun state repayment => repaid state repayment.1 repayment.2)
    (fun state repayment => state.repaidOperations repayment.1 repayment.2) state repayments

/-- What closing on a boundary comes to without any rounding. -/
def closingSum (state : WeighedBalance) (boundary : Date) : ℚ :=
  state.weightedSum.toRat
    + state.runningBalance.toRat * (Date.daysBetween boundary state.dateMarker : ℤ)

/-- An undone repayment counts from the boundary to its day: the days from there to the old marker
were weighed with the balance before, and those from the boundary are with the balance after.
-/
theorem closingSum_of_repaid {opening sum amount : Money} {day : Date}
    (balance : opening.toRat = state.runningBalance.toRat + amount.toRat)
    (weighed
      : sum.toRat
        = state.weightedSum.toRat
          + state.runningBalance.toRat * (Date.daysBetween day state.dateMarker : ℤ))
    (boundary : Date)
    : closingSum ⟨opening, day, sum⟩ boundary
      = state.closingSum boundary + amount.toRat * (Date.daysBetween boundary day : ℤ) := by
  simp only [closingSum, balance, weighed, Date.daysBetween]
  push_cast
  ring

/-- Undone repayments raise the balance by their amounts and the sum on closing by the amounts
counted from the boundary to their days, by induction over the repayments.
-/
theorem repaidAll_of_inRange {repayments : List (Date × Money)} (settled : state.Settled)
    (places : ∀ repayment ∈ repayments, repayment.2.Settled)
    (range : AllInRange (state.repaidAllOperations repayments))
    : ∃ final,
        state.repaidAll repayments = .ok final
        ∧ final.Settled
        ∧ final.runningBalance.toRat
          = state.runningBalance.toRat
            + (repayments.map fun repayment => repayment.2.toRat).sum
        ∧ ∀ boundary,
            final.closingSum boundary
              = state.closingSum boundary
                + (repayments.map fun repayment : Date × Money =>
                    repayment.2.toRat * (Date.daysBetween boundary repayment.1 : ℤ)).sum := by
  induction repayments generalizing state with
  | nil => exact ⟨state, rfl, settled, by simp, by simp⟩
  | cons repayment rest ih =>
      obtain ⟨day, amount⟩ := repayment
      obtain ⟨here, placesRest⟩ := List.forall_mem_cons.mp places
      obtain ⟨first, later⟩ := allInRange_append.mp range
      obtain ⟨opening, sum, undone, nextSettled, balance, weighed⟩ :=
        repaid_of_inRange settled here first
      obtain ⟨final, walked, finalSettled, raised, sums⟩ :=
        ih nextSettled placesRest (later.of_following undone)
      refine ⟨final, ?_, finalSettled, ?_, ?_⟩
      · rw [repaidAll, List.foldlM_cons, undone]
        exact walked
      · rw [raised, balance, List.map_cons, List.sum_cons, add_assoc]
      · intro boundary
        rw [sums, closingSum_of_repaid balance weighed, List.map_cons, List.sum_cons, add_assoc]

end WeighedBalance

/-- Weighs a balance from the end of a window back to a boundary while repayments are undone. -/
def weighRepayments (window : MonthWindow) (closing : Money) (repayments : List (Date × Money))
    (boundary : Date)
    : Except Fault WeighedBalance := do
  let start ← WeighedBalance.start closing window
  let undone ← start.repaidAll repayments
  undone.close boundary

def weighRepaymentsOperations (window : MonthWindow) (closing : Money)
    (repayments : List (Date × Money)) (boundary : Date)
    : List Operation :=
  following (WeighedBalance.start closing window) fun start =>
    start.repaidAllOperations repayments
      ++ following (start.repaidAll repayments) fun undone => undone.closeOperations boundary

/-- Whatever the days and the order of the repayments, the balance ends with all amounts added, and
the weighted sum is the balance at the end of the window for the days from the boundary to the day
after it, and every amount for the days from the boundary to its own. A window that no day follows
is refused.
-/
theorem weighRepayments_conserves (window : MonthWindow) (closing : Money)
    (repayments : List (Date × Money)) (boundary : Date) (settled : closing.Settled)
    (places : ∀ repayment ∈ repayments, repayment.2.Settled)
    (range : AllInRange (weighRepaymentsOperations window closing repayments boundary))
    : match window.lastDay.next? with
      | some follower =>
          ∃ final,
            weighRepayments window closing repayments boundary = .ok final
            ∧ final.runningBalance.toRat
              = closing.toRat + (repayments.map fun repayment => repayment.2.toRat).sum
            ∧ final.dateMarker = boundary
            ∧ final.weightedSum.toRat
              = closing.toRat * (Date.daysBetween boundary follower : ℤ)
                + (repayments.map fun repayment : Date × Money =>
                    repayment.2.toRat * (Date.daysBetween boundary repayment.1 : ℤ)).sum
      | none =>
          weighRepayments window closing repayments boundary
            = .error (.failed (.invalidDate (.noDayAfter window.lastDay))) := by
  cases following : window.lastDay.next? with
  | none =>
      have refused
          : WeighedBalance.start closing window
            = .error (.invalidDate (.noDayAfter window.lastDay)) := by
        simp only [WeighedBalance.start, following]
      simp only [weighRepayments, refused, bind, Except.bind, liftM, monadLift,
        MonadLift.monadLift, Except.mapError]
  | some follower =>
      have started := WeighedBalance.start_eq_ok closing following
      obtain ⟨undoing, concluding⟩ := allInRange_append.mp (range.of_following started)
      obtain ⟨undone, walked, undoneSettled, balance, sums⟩ :=
        WeighedBalance.repaidAll_of_inRange ⟨settled, Money.settled_zero⟩ places undoing
      obtain ⟨sum, closed, value⟩ :=
        WeighedBalance.close_of_inRange undoneSettled (concluding.of_following walked)
      refine ⟨⟨undone.runningBalance, boundary, sum⟩, ?_, balance, rfl, ?_⟩
      · simp only [weighRepayments, started, walked, closed, bind, Except.bind, liftM, monadLift,
          MonadLift.monadLift, Except.mapError]
      · have total : sum.toRat = undone.closingSum boundary := value
        rw [total, sums, WeighedBalance.closingSum, Money.toRat_zero, zero_add]

/-- Of 1000 owed at the end of March, 100 are undone on two days in March, the earlier of them met
twice, and 7 in February, before the boundary.
-/
theorem weighRepayments_conserves_march
    : let window := MonthWindow.containing (Sample.day .march 10 (by decide))
      let boundary := Sample.day .march 5 (by decide)
      let repayments : List (Date × Money) :=
        [(Sample.day .march 15 (by decide), .ofMajor 50),
          (Sample.day .march 20 (by decide), .ofMajor 30),
          (Sample.day .february 10 (by decide), .ofMajor 7),
          (Sample.day .march 15 (by decide), .ofMajor 20)]
      (Money.ofMajor 1000).Settled
      ∧ (∀ repayment ∈ repayments, repayment.2.Settled)
      ∧ AllInRange (weighRepaymentsOperations window (.ofMajor 1000) repayments boundary)
      ∧ ∃ final,
          weighRepayments window (.ofMajor 1000) repayments boundary = .ok final
          ∧ final.runningBalance.toRat = 1107
          ∧ final.dateMarker = boundary
          ∧ final.weightedSum.toRat = 1000 * 27 + 50 * 10 + 30 * 15 - 7 * 24 + 20 * 10 := by
  intro window boundary repayments
  have settled : (Money.ofMajor 1000).Settled := by decide +kernel
  have places : ∀ repayment ∈ repayments, repayment.2.Settled := by decide +kernel
  have range
      : AllInRange (weighRepaymentsOperations window (.ofMajor 1000) repayments boundary) := by
    unfold AllInRange Money.InRange
    decide +kernel
  have following : window.lastDay.next? = some (Sample.day .april 1 (by decide)) := by
    decide +kernel
  have conserved :=
    weighRepayments_conserves window (.ofMajor 1000) repayments boundary settled places range
  simp only [following] at conserved
  obtain ⟨final, weighed, balance, marker, sum⟩ := conserved
  exact ⟨settled, places, range, final, weighed, balance.trans (by decide +kernel), marker,
    sum.trans (by decide +kernel)⟩

end ChargeBasis

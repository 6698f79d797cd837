import ChargeBasis.Proofs.Period.Windows

/-!
The quarters of a year. The months of the year are those of its quarters, one quarter after the
other, so that every quarter has its place among the months of the year.
-/

namespace ChargeBasis

/-- The quarters after one, in the order of the year. -/
def Quarter.later (quarter : Quarter) : List Quarter :=
  Quarter.all.filter fun other => quarter.id < other.id

/-- Whole months are the same if their years and numbers are, by induction over the lists. -/
theorem MonthWindow.eq_of_months {a b : List MonthWindow} (whole : ∀ w ∈ a, w.Whole)
    (other : ∀ w ∈ b, w.Whole)
    (same
      : (a.map fun w => (w.firstDay.year, w.firstDay.month.number))
        = b.map fun w => (w.firstDay.year, w.firstDay.month.number))
    : a = b := by
  induction a generalizing b with
  | nil => exact (List.map_eq_nil_iff.mp same.symm).symm
  | cons head rest ih =>
      cases b with
      | nil => cases same
      | cons first tail =>
          obtain ⟨heads, tails⟩ := List.cons.inj same
          obtain ⟨year, month⟩ := Prod.mk.inj heads
          rw [(whole head (by simp)).eq_of_month (other first (by simp)) year month,
            ih (fun w member => whole w (by simp [member]))
              (fun w member => other w (by simp [member])) tails]

namespace ChargePeriod

variable {year : Int32} {periods : BillingPeriod → ChargePeriod}

theorem months_windows_of_inYear {period : BillingPeriod} {found : ChargePeriod}
    (h : period.inYear year = .ok found)
    : (found.windows.map fun w => (w.firstDay.year, w.firstDay.month.number))
      = (List.range period.months).map fun back =>
          (year.toInt, period.lastMonth.number - back) := by
  obtain ⟨rfl, rfl⟩ := BillingPeriod.inYear_eq_ok h
  exact found.months_windows

/-- The months of a year are those of its quarters, both with the latest first. -/
theorem windows_yearly (found : ∀ period, BillingPeriod.inYear period year = .ok (periods period))
    : (periods .yearly).windows
      = Quarter.all.reverse.flatMap fun quarter => (periods (.quarterly quarter)).windows := by
  have whole (period : BillingPeriod) : ∀ w ∈ (periods period).windows, w.Whole :=
    fun w member => ((periods period).monthsBackFrom_windows.forall_mem member).1
  apply MonthWindow.eq_of_months (whole .yearly)
  · intro w member
    obtain ⟨quarter, _, listed⟩ := List.mem_flatMap.mp member
    exact whole _ w listed
  · rw [List.map_flatMap]
    simp only [months_windows_of_inYear (found _)]
    rfl

/-- In the months of a year those of a quarter stand between those of the later quarters and as
many earlier ones as the quarters before it have.
-/
theorem exists_windows_yearly
    (found : ∀ period, BillingPeriod.inYear period year = .ok (periods period))
    (quarter : Quarter)
    : ∃ earlier,
        (periods .yearly).windows
          = (quarter.later.reverse.flatMap fun later => (periods (.quarterly later)).windows)
            ++ (periods (.quarterly quarter)).windows
            ++ earlier
        ∧ earlier.length = 3 * (quarter.id - 1) := by
  rw [windows_yearly found]
  have length (q : Quarter) : (periods (.quarterly q)).windows.length = 3 := by
    rw [length_windows, months, (BillingPeriod.inYear_eq_ok (found _)).1]
    rfl
  refine ⟨(Quarter.all.filter fun other => other.id < quarter.id).reverse.flatMap fun other =>
    (periods (.quarterly other)).windows, ?_, ?_⟩
  · cases quarter <;> simp [Quarter.all, Quarter.later, Quarter.id]
  · cases quarter <;> simp [Quarter.all, Quarter.id, length]

theorem toDate_le_yearly
    (found : ∀ period, BillingPeriod.inYear period year = .ok (periods period))
    (quarter : Quarter)
    : (periods (.quarterly quarter)).toDate ≤ (periods .yearly).toDate := by
  obtain ⟨earlier, split, _⟩ := exists_windows_yearly found quarter
  obtain ⟨last, rest, windows, ends⟩ := (periods (.quarterly quarter)).exists_last_window
  have member : last ∈ (periods .yearly).windows := by
    rw [split, windows]
    simp
  rw [← ends]
  exact ((periods .yearly).monthsBackFrom_windows.forall_mem member).2

theorem toDate_yearly
    (found : ∀ period, BillingPeriod.inYear period year = .ok (periods period))
    : (periods .yearly).toDate = (periods (.quarterly .q4)).toDate := by
  obtain ⟨earlier, split, _⟩ := exists_windows_yearly found .q4
  obtain ⟨last, _, windows, ends⟩ := (periods .yearly).exists_last_window
  obtain ⟨own, _, ownWindows, ownEnds⟩ := (periods (.quarterly .q4)).exists_last_window
  rw [windows, ownWindows] at split
  rw [← ends, ← ownEnds]
  exact congrArg MonthWindow.lastDay (List.cons.inj split).1

end ChargePeriod

end ChargeBasis

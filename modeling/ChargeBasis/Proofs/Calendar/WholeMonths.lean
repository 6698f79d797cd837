import ChargeBasis.Proofs.Calendar.Walks
import Mathlib.Order.Bounds.Basic

/-!
The month of a date. The day before the following month is the greatest date of the month, whatever
the length of the month. Only the last month of the calendar is followed by none: a window taken
there ends with the date that it is taken for.
-/

namespace ChargeBasis

namespace Month

/-- The length of a month by the rule of the Gregorian calendar. -/
def lengthByRule (month : Month) (year : Int) : Int :=
  if month = .february then
    if 4 ∣ year ∧ (100 ∣ year → 400 ∣ year) then 29 else 28
  else if month ∈ [april, june, september, november] then 30
  else 31

theorem isLeapYear_iff {year : Int}
    : isLeapYear year = true ↔ 4 ∣ year ∧ (100 ∣ year → 400 ∣ year) := by
  simp only [isLeapYear, Bool.and_eq_true, Bool.or_eq_true, beq_iff_eq, bne_iff_ne]
  omega

theorem lengthIn_eq_lengthByRule (month : Month) (year : Int)
    : (month.lengthIn year : Int) = month.lengthByRule year := by
  cases month
  case february =>
    simp only [lengthIn, length, lengthByRule, if_true]
    by_cases leap : isLeapYear year = true
    · rw [if_pos leap, if_pos (isLeapYear_iff.mp leap)]
      rfl
    · rw [if_neg leap, if_neg (mt isLeapYear_iff.mpr leap)]
      rfl
  all_goals rfl

/-- Only the last month of a year is followed by none in it. -/
theorem next?_eq_none_iff {month : Month}
    : month.next? = none ↔ month = .december := by
  cases month <;> simp [next?]

end Month

namespace Date

/-- The dates lie in one month of one year. -/
def SameMonth (a b : Date) : Prop := a.year = b.year ∧ a.month = b.month

/-- The date lies in the last month of the calendar. -/
def InLastMonth (d : Date) : Prop := d.year = maxYear ∧ d.month = .december

instance (d : Date) : Decidable d.InLastMonth :=
  inferInstanceAs (Decidable (d.year = maxYear ∧ d.month = .december))

theorem SameMonth.inLastMonth_iff {a b : Date} (same : a.SameMonth b)
    : a.InLastMonth ↔ b.InLastMonth := by
  rw [InLastMonth, InLastMonth, same.1, same.2]

/-- Every month but the last one is followed by another. -/
theorem firstOfNextMonth?_eq_none_iff {d : Date}
    : d.firstOfNextMonth? = none ↔ d.InLastMonth := by
  have lower := d.minYear_le
  have upper := d.le_maxYear
  rw [firstOfNextMonth?, InLastMonth, ← Month.next?_eq_none_iff]
  cases following : d.month.next? with
  | some month =>
      obtain ⟨first, found⟩ := exists_of? lower upper (Nat.le_refl 1) (month.length_pos _)
      simp [found]
  | none =>
      rcases Int.lt_or_eq_of_le upper with earlier | last
      · obtain ⟨first, found⟩ :=
          exists_of? (by omega : minYear ≤ d.year + 1) (by omega) (Nat.le_refl 1)
            (Month.january.length_pos _)
        simp [found, Int.ne_of_lt earlier]
      · have beyond : of? (d.year + 1) .january 1 = none := dif_neg (by omega)
        exact iff_of_true beyond ⟨last, rfl⟩

/-- The last day of a month closes it, except for a date of the last month of all. -/
theorem lastOfMonth_eq (d : Date)
    : d.lastOfMonth = if d.InLastMonth then d else d.endOfMonth := by
  rw [lastOfMonth]
  by_cases final : d.InLastMonth
  · rw [if_pos final, firstOfNextMonth?_eq_none_iff.mpr final]
    rfl
  · have following := mt firstOfNextMonth?_eq_none_iff.mp final
    rw [if_neg final, if_pos (Option.isSome_iff_ne_none.mpr following)]

/-- The first day of the following month is preceded by the day that closes the month. -/
theorem previous?_firstOfNextMonth {d first : Date} (following : d.firstOfNextMonth? = some first)
    : first.previous? = some d.endOfMonth := by
  have number := dayNumber_of_firstOfNextMonth? following
  have closes : d.endOfMonth.dayNumber + 1 = first.dayNumber := by
    rw [number]
    rfl
  have before : d.endOfMonth < first := (by omega : d.endOfMonth.dayNumber < first.dayNumber)
  obtain ⟨last, found⟩ := exists_previous? before
  have same := dayNumber_of_previous? found
  rw [found, dayNumber_injective (by omega : last.dayNumber = d.endOfMonth.dayNumber)]

/-- The last day of a month is found by a step back from the following month, if there is one. -/
theorem lastOfMonth_eq_step_back (d : Date)
    : d.lastOfMonth = (d.firstOfNextMonth?.bind previous?).getD d := by
  rw [lastOfMonth]
  cases following : d.firstOfNextMonth? with
  | none => rfl
  | some first =>
      rw [Option.bind_some, previous?_firstOfNextMonth following]
      rfl

end Date

namespace MonthWindow

/-- The window is the calendar month of the date: it has all dates of the month, and every one of
them has this window.
-/
structure IsMonthOf (window : MonthWindow) (d : Date) : Prop where
  first : window.firstDay.SameMonth d ∧ window.firstDay.day = 1
  last : IsGreatest {e | e.SameMonth d} window.lastDay
  inside : window.firstDay ≤ d ∧ d ≤ window.lastDay
  shared : ∀ e : Date, e.SameMonth d → containing e = window
  length : window.days = d.month.lengthByRule d.year

section Containing

variable {d : Date}

/-- In the last month of the calendar a window ends with its date. -/
theorem lastDay_containing_of_inLastMonth (final : d.InLastMonth)
    : (containing d).lastDay = d := by
  change d.lastOfMonth = d
  rw [Date.lastOfMonth_eq, if_pos final]

theorem whole_containing_of_not_inLastMonth (followed : ¬ d.InLastMonth)
    : (containing d).Whole where
  first := rfl
  last := by
    change d.lastOfMonth = d.endOfMonth
    rw [Date.lastOfMonth_eq, if_neg followed]

/-- A month that is followed by another is found whole from each of its dates. -/
theorem isMonthOf_containing (followed : ¬ d.InLastMonth)
    : (containing d).IsMonthOf d := by
  have whole := whole_containing_of_not_inLastMonth followed
  have member := whole.mem_iff
  have inside : (containing d).firstDay ≤ d ∧ d ≤ (containing d).lastDay :=
    (member d).mpr ⟨rfl, rfl⟩
  have ends : (containing d).lastDay.SameMonth d :=
    (member _).mp ⟨whole.first_le_last, Int.le_refl _⟩
  refine
    { first := ⟨⟨rfl, rfl⟩, rfl⟩, last := ⟨ends, ?_⟩, inside, shared := ?_, length := ?_ }
  · intro e same
    exact ((member e).mpr same).2
  · intro e same
    have other := whole_containing_of_not_inLastMonth (mt same.inLastMonth_iff.mp followed)
    exact other.eq_of_month whole same.1 (congrArg Month.number same.2)
  · rw [whole.days_eq, Month.lengthIn_eq_lengthByRule]
    rfl

/-- In the last month of the calendar the first and the last of its dates have windows that end on
different days.
-/
theorem not_isMonthOf_containing (final : d.InLastMonth)
    : ¬ (containing d).IsMonthOf d := by
  intro month
  have ends (e : Date) (same : e.SameMonth d) : e = d := by
    have window := congrArg lastDay (month.shared e same)
    rwa [lastDay_containing_of_inLastMonth (same.inLastMonth_iff.mpr final),
      lastDay_containing_of_inLastMonth final] at window
  have first : 1 = d.day := congrArg Date.day (ends d.firstOfMonth ⟨rfl, rfl⟩)
  have last : d.month.lengthIn d.year = d.day := congrArg Date.day (ends d.endOfMonth ⟨rfl, rfl⟩)
  have long := d.month.le_length (isLeapYear d.year)
  rw [Month.lengthIn] at last
  omega

/-- The window of a date is its calendar month exactly if the month is followed by another. It
always starts with the month and ends on the day before the following one; in the last month of the
calendar, where there is none, it ends with the date.
-/
theorem containing_isMonthOf_iff (d : Date)
    : ((containing d).IsMonthOf d ↔ ¬ d.InLastMonth)
      ∧ (containing d).firstDay.SameMonth d
      ∧ (containing d).firstDay.day = 1
      ∧ (containing d).lastDay = (d.firstOfNextMonth?.bind Date.previous?).getD d
      ∧ (d.InLastMonth → (containing d).lastDay = d ∧ (containing d).days = d.day) := by
  refine ⟨⟨fun month final => not_isMonthOf_containing final month, isMonthOf_containing⟩,
    ⟨rfl, rfl⟩, rfl, d.lastOfMonth_eq_step_back, ?_⟩
  intro final
  have last := lastDay_containing_of_inLastMonth final
  refine ⟨last, ?_⟩
  rw [days, Date.daysBetween, last]
  simp only [Date.dayNumber, containing, Date.firstOfMonth]
  omega

/-- The window of the fifth of December 262142 ends on that day and has five days. -/
theorem not_forall_containing_isMonthOf
    : ¬∀ d : Date, (containing d).IsMonthOf d := by
  intro all
  have length := (all ⟨262142, .december, 5, by decide, by decide, by decide, by decide⟩).length
  exact absurd length (by decide +kernel)

end Containing

end MonthWindow

end ChargeBasis

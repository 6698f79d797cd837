import ChargeBasis.Calendar.MonthWindow
import ChargeBasis.Proofs.Calendar.DayNumber
import Mathlib.Data.List.Chain

/-!
The walks back through days and months visit every day of their span once: no day and no month is
skipped or repeated, and each month is a whole one.
-/

namespace ChargeBasis

/-- The dates are consecutive, latest first, and the latest has this day number. -/
def DaysBackFrom (last : Int) : List Date → Prop
  | [] => True
  | day :: earlier => day.dayNumber = last ∧ DaysBackFrom (last - 1) earlier

namespace DayWalk

/-- Before its last day the walk goes on with the day before. -/
theorem next?_of_later {day downTo : Date} (later : downTo < day)
    : ∃ previous,
        next? ⟨some day, downTo⟩ = some (day, ⟨some previous, downTo⟩)
        ∧ previous.dayNumber = day.dayNumber - 1 := by
  obtain ⟨previous, found⟩ := Date.exists_previous? later
  refine ⟨previous, ?_, Date.dayNumber_of_previous? found⟩
  simp only [next?, Option.map_some, if_pos later, found]

/-- A walk of one more day than lie between two dates visits each day from the later one to the
earlier one, by induction over the days between. -/
theorem takeSteps_spec {day downTo : Date} {between : Nat}
    (h : day.dayNumber = downTo.dayNumber + between)
    : DaysBackFrom day.dayNumber (takeSteps next? (between + 1) ⟨some day, downTo⟩).1
      ∧ (takeSteps next? (between + 1) ⟨some day, downTo⟩).1.length = between + 1 := by
  induction between generalizing day with
  | zero => exact ⟨⟨rfl, trivial⟩, rfl⟩
  | succ between ih =>
      have later : downTo < day := (by omega : downTo.dayNumber < day.dayNumber)
      obtain ⟨previous, step, number⟩ := next?_of_later later
      obtain ⟨days, length⟩ := @ih previous (by omega)
      rw [takeSteps]
      simp only [step]
      exact ⟨⟨rfl, number ▸ days⟩, congrArg Nat.succ length⟩

/-- The days of a walk are those of one more step than there are days between its ends. -/
theorem toList_start_of_le {first downTo : Date} (h : downTo ≤ first)
    : ∃ between : Nat,
        first.dayNumber = downTo.dayNumber + between
        ∧ (start first downTo).toList
          = (takeSteps next? (between + 1) ⟨some first, downTo⟩).1 := by
  have ordered : downTo.dayNumber ≤ first.dayNumber := h
  obtain ⟨between, span⟩ :=
    Int.eq_ofNat_of_zero_le (by omega : 0 ≤ first.dayNumber - downTo.dayNumber)
  refine ⟨between, by omega, ?_⟩
  have going : start first downTo = ⟨some first, downTo⟩ := by rw [start, if_pos h]
  have length : DayWalk.length ⟨some first, downTo⟩ = between + 1 := by
    simp only [DayWalk.length, Date.daysBetween]
    omega
  rw [toList, take, going, length]

/-- A walk whose last day is after its first one is over at once. -/
theorem toList_start_of_not_le {first downTo : Date} (h : ¬ downTo ≤ first)
    : (start first downTo).toList = [] := by
  simp [toList, take, length, start, h, takeSteps]

/-- The whole walk visits the days from the first date back to the last one. -/
theorem toList_start {first downTo : Date} (h : downTo ≤ first)
    : DaysBackFrom first.dayNumber (start first downTo).toList
      ∧ ((start first downTo).toList.length : Int) = Date.daysBetween downTo first + 1 := by
  obtain ⟨between, span, days⟩ := toList_start_of_le h
  obtain ⟨back, count⟩ := takeSteps_spec span
  rw [days, count, Date.daysBetween]
  exact ⟨back, by omega⟩

end DayWalk

namespace Date

/-- The last day of a month closes its month, also in the last month of all. -/
theorem lastOfMonth_of_last_day {d : Date} (h : d.day = d.month.lengthIn d.year)
    : d.lastOfMonth = d := by
  have same : d.endOfMonth = d := eq_of_parts rfl rfl h.symm
  unfold lastOfMonth
  split
  · exact same
  · rfl

/-- The day before the first of a month is the last of its own. -/
theorem day_of_previous? {d e : Date} (first : d.day = 1) (h : d.previous? = some e)
    : e.day = e.month.lengthIn e.year := by
  rw [previous?, if_neg (by omega)] at h
  split at h
  · obtain ⟨year, month, day⟩ := of?_eq_some_iff.mp h
    rw [year, month, day]
  · obtain ⟨year, month, day⟩ := of?_eq_some_iff.mp h
    rw [month, day]
    rfl

end Date

namespace MonthWindow

/-- The window is one calendar month from its first to its last day. -/
structure Whole (window : MonthWindow) : Prop where
  first : window.firstDay.day = 1
  last : window.lastDay = window.firstDay.endOfMonth

/-- The month of a date that closes it is whole and ends with the date. -/
theorem whole_containing {d : Date} (h : d.day = d.month.lengthIn d.year)
    : (containing d).Whole ∧ (containing d).lastDay = d := by
  have last : d.lastOfMonth = d := Date.lastOfMonth_of_last_day h
  refine ⟨⟨rfl, ?_⟩, last⟩
  change d.lastOfMonth = d.firstOfMonth.endOfMonth
  rw [last]
  exact Date.eq_of_parts rfl rfl h

theorem Whole.first_le_last {window : MonthWindow} (whole : window.Whole)
    : window.firstDay.dayNumber ≤ window.lastDay.dayNumber := by
  have positive := window.firstDay.day_le
  rw [whole.last]
  simp only [Date.dayNumber, Date.endOfMonth]
  omega

theorem Whole.last_le {window : MonthWindow} (whole : window.Whole)
    : window.lastDay.dayNumber + 1 ≤ window.firstDay.dayNumber + 31 := by
  have most := window.firstDay.month.length_le (isLeapYear window.firstDay.year)
  have first := whole.first
  rw [whole.last]
  simp only [Date.dayNumber, Date.endOfMonth, Month.lengthIn]
  omega

/-- A whole month has the days of its calendar month. -/
theorem Whole.days_eq {window : MonthWindow} (whole : window.Whole)
    : window.days = window.firstDay.month.lengthIn window.firstDay.year := by
  have first := whole.first
  rw [days, Date.daysBetween, whole.last]
  simp only [Date.dayNumber, Date.endOfMonth]
  omega

/-- A whole month has from 28 to 31 days. -/
theorem Whole.days_bounds {window : MonthWindow} (whole : window.Whole)
    : 28 ≤ window.days ∧ window.days ≤ 31 := by
  have least := window.firstDay.month.le_length (isLeapYear window.firstDay.year)
  have most := window.firstDay.month.length_le (isLeapYear window.firstDay.year)
  rw [whole.days_eq, Month.lengthIn]
  omega

/-- A whole month is known by its year and its number in the year. -/
theorem Whole.eq_of_month {a b : MonthWindow} (whole : a.Whole) (other : b.Whole)
    (year : a.firstDay.year = b.firstDay.year)
    (month : a.firstDay.month.number = b.firstDay.month.number)
    : a = b := by
  have first : a.firstDay = b.firstDay :=
    Date.eq_of_parts year (Month.number_injective month) (whole.first.trans other.first.symm)
  have last : a.lastDay = b.lastDay := by rw [whole.last, other.last, first]
  cases a
  cases b
  cases first
  cases last
  rfl

theorem Whole.year_eq {window : MonthWindow} (whole : window.Whole)
    : window.lastDay.year = window.firstDay.year := by
  rw [whole.last]
  rfl

/-- The days of a whole month are the dates of its year with its month. -/
theorem Whole.mem_iff {window : MonthWindow} (whole : window.Whole) (d : Date)
    : window.firstDay ≤ d ∧ d ≤ window.lastDay
      ↔ d.year = window.firstDay.year ∧ d.month = window.firstDay.month := by
  have closes : window.lastDay.day = window.lastDay.month.lengthIn window.lastDay.year := by
    rw [whole.last]
    rfl
  have month : window.lastDay.month = window.firstDay.month := by
    rw [whole.last]
    rfl
  rw [Date.le_iff_of_edge (.inl whole.first), Date.le_iff_of_edge (.inr closes), whole.year_eq,
    month]
  constructor
  · intro within
    exact ⟨by omega, Month.number_injective (by omega)⟩
  · intro same
    rw [same.1, same.2]
    omega

/-- The month before a whole one is whole and ends on the day before it. -/
theorem Whole.previous {window earlier : MonthWindow} (whole : window.Whole)
    (h : window.previous? = some earlier)
    : earlier.Whole ∧ earlier.lastDay.dayNumber = window.firstDay.dayNumber - 1 := by
  obtain ⟨day, found, rfl⟩ := Option.map_eq_some_iff.mp h
  obtain ⟨month, last⟩ := whole_containing (Date.day_of_previous? whole.first found)
  exact ⟨month, by rw [last, Date.dayNumber_of_previous? found]⟩

/-- The windows are whole months without a gap between them, latest first, and the latest ends on
the day with this number. -/
def MonthsBackFrom (last : Int) : List MonthWindow → Prop
  | [] => True
  | window :: earlier =>
    window.Whole
    ∧ window.lastDay.dayNumber = last
    ∧ MonthsBackFrom (window.firstDay.dayNumber - 1) earlier

/-- Every window of a gapless list is a whole month that ends no later than the list. -/
theorem MonthsBackFrom.forall_mem {last : Int} {windows : List MonthWindow}
    (months : MonthsBackFrom last windows) {window : MonthWindow} (member : window ∈ windows)
    : window.Whole ∧ window.lastDay.dayNumber ≤ last := by
  induction windows generalizing last with
  | nil => cases member
  | cons head earlier ih =>
      obtain ⟨whole, ends, rest⟩ := months
      rcases List.mem_cons.mp member with rfl | member
      · exact ⟨whole, by omega⟩
      · have inner := ih rest member
        have days := whole.first_le_last
        exact ⟨inner.1, by omega⟩

/-- Of two neighbouring windows the earlier one ends on the day before the other starts. -/
theorem MonthsBackFrom.neighbours {last : Int} {later earlier : List MonthWindow}
    {window previous : MonthWindow}
    (months : MonthsBackFrom last (later ++ window :: previous :: earlier))
    : previous.lastDay.dayNumber = window.firstDay.dayNumber - 1 := by
  induction later generalizing last with
  | nil => exact months.2.2.2.1
  | cons _ _ ih => exact ih months.2.2

/-- Every window starts on the day after the window before it in time ends. -/
theorem MonthsBackFrom.isChain {last : Int} {windows : List MonthWindow}
    (months : MonthsBackFrom last windows)
    : windows.IsChain fun window previous => previous.lastDay.next? = some window.firstDay := by
  induction windows generalizing last with
  | nil => exact .nil
  | cons window earlier ih =>
      obtain ⟨_, _, rest⟩ := months
      cases earlier with
      | nil => exact .singleton window
      | cons previous others =>
          refine .cons_cons ?_ (ih rest)
          have ends := rest.2.1
          exact Date.next?_eq_some_iff.mpr (by omega)

/-- The later windows of a gapless list are gapless. -/
theorem MonthsBackFrom.of_append {last : Int} {later earlier : List MonthWindow}
    (months : MonthsBackFrom last (later ++ earlier))
    : MonthsBackFrom last later := by
  induction later generalizing last with
  | nil => trivial
  | cons _ _ ih => exact ⟨months.1, months.2.1, ih months.2.2⟩

end MonthWindow

namespace MonthWalk

open MonthWindow

/-- A walk that is asked for more months than are left gives those that are left, by induction over
the number asked for. -/
theorem take_of_le {walk : MonthWalk} {count : Nat} (enough : walk.remaining ≤ count)
    : (walk.take count).1 = walk.toList := by
  induction count generalizing walk with
  | zero =>
      rw [toList, Nat.le_zero.mp enough]
  | succ count ih =>
      obtain ⟨upcoming, remaining⟩ := walk
      cases remaining with
      | zero => rfl
      | succ remaining =>
          cases upcoming with
          | none => rfl
          | some window =>
              have rest := @ih ⟨window.previous?, remaining⟩ (Nat.le_of_succ_le_succ enough)
              exact congrArg (window :: ·) rest

/-- From a whole month the walk passes through whole months without a gap, by induction over the
steps. -/
theorem takeSteps_months {window : MonthWindow} (whole : window.Whole) (count : Nat)
    : MonthsBackFrom window.lastDay.dayNumber
        (takeSteps next? count ⟨some window, count⟩).1 := by
  induction count generalizing window with
  | zero => trivial
  | succ count ih =>
      simp only [takeSteps, next?, Nat.add_one_ne_zero, if_false, Option.map_some,
        Nat.add_sub_cancel]
      refine ⟨whole, rfl, ?_⟩
      -- without a month before, the walk ends and takes none of the steps that are left
      cases earlier : window.previous? with
      | none => cases count <;> simp [takeSteps, next?, MonthsBackFrom]
      | some previous =>
          obtain ⟨month, ends⟩ := whole.previous earlier
          exact ends ▸ ih month

end MonthWalk

end ChargeBasis

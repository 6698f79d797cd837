import ChargeBasis.Period.PeriodChoice
import ChargeBasis.Proofs.Calendar.CompleteWalks
import ChargeBasis.Proofs.Calendar.YearText
import Mathlib

/-!
The windows of a charge period are its months: all of them, whole, one after the other and within
one year. The boundaries of a period are the first day of its first month and the last day of its
last month, which the text of a boundary names in every year of at most four digits; so a choice of
a period fails only for an unknown month or for a year without such a text.
-/

namespace ChargeBasis

namespace BillingPeriod

def firstMonth : BillingPeriod → Month
  | quarterly .q1 | yearly => .january
  | quarterly .q2 => .april
  | quarterly .q3 => .july
  | quarterly .q4 => .october

def lastMonth : BillingPeriod → Month
  | quarterly .q1 => .march
  | quarterly .q2 => .june
  | quarterly .q3 => .september
  | quarterly .q4 | yearly => .december

/-- A boundary text is read as its fixed day and month in the year that completes it, and has
something left after a year of more than four digits. -/
theorem parse_of_template {template : String} {day : Nat} {month : Month}
    {rest : List Char → List Char}
    (front : ∀ cs, DateText.twoDigits (template.toList ++ cs) = .ok (day, rest cs))
    (name : ∀ cs, DateText.monthAbbreviation (rest cs) = .ok (month, ' ' :: cs))
    (year : Int32)
    : Date.parseDayMonthYear (template ++ Digits.intText year.toInt)
      = if year.toInt ≤ 9999 then DateText.existing (Date.of? year.toInt month day)
        else .error .trailingInput := by
  have lower := year.le_toInt
  have text
      : (template ++ Digits.intText year.toInt).toList
        = template.toList ++ Digits.ofInt year.toInt := by
    rw [String.toList_append, Digits.intText, String.toList_ofList]
  rw [Date.parseDayMonthYear, text, front]
  simp only [bind, Except.bind, name]
  -- at most four digits are read, and what is left of a longer year is an error
  by_cases short : year.toInt ≤ 9999
  · have above : -(DateText.numberLimit : Int) < year.toInt := by
      simp only [DateText.numberLimit]
      omega
    rw [DateText.year_ofInt above short, if_pos short]
    rfl
  · obtain ⟨m, rest, read, left⟩ := DateText.year_ofInt_of_longer (Int.lt_of_not_ge short)
    have something : (!rest.isEmpty) = true := by simp [left]
    rw [read, if_neg short]
    simp only [something, if_true]
    rfl

/-- The first day of a period is the first day of its first month. -/
theorem parse_first (period : BillingPeriod) (year : Int32)
    : Date.parseDayMonthYear (period.boundaryTemplates.1 ++ Digits.intText year.toInt)
      = if year.toInt ≤ 9999 then
          DateText.existing (Date.of? year.toInt period.firstMonth 1)
        else .error .trailingInput := by
  cases period with
  | yearly => exact parse_of_template (fun _ => rfl) (fun _ => rfl) year
  | quarterly quarter =>
      cases quarter <;> exact parse_of_template (fun _ => rfl) (fun _ => rfl) year

/-- The last day of a period is the last day of its last month. -/
theorem parse_last (period : BillingPeriod) (year : Int32)
    : Date.parseDayMonthYear (period.boundaryTemplates.2 ++ Digits.intText year.toInt)
      = if year.toInt ≤ 9999 then
          DateText.existing
            (Date.of? year.toInt period.lastMonth (period.lastMonth.lengthIn year.toInt))
        else .error .trailingInput := by
  cases period with
  | yearly => exact parse_of_template (fun _ => rfl) (fun _ => rfl) year
  | quarterly quarter =>
      cases quarter <;> exact parse_of_template (fun _ => rfl) (fun _ => rfl) year

theorem boundary_eq_ok_iff {template : String} {year : Int32} {d : Date}
    : boundary template year = .ok d
      ↔ Date.parseDayMonthYear (template ++ Digits.intText year.toInt) = .ok d := by
  simp only [boundary]
  cases Date.parseDayMonthYear (template ++ Digits.intText year.toInt) <;>
    simp [Except.mapError]

/-- A period has a last day exactly in the years of dates that four digits hold. -/
theorem toDate_eq_ok_iff {period : BillingPeriod} {year : Int32} {d : Date}
    : period.toDate year = .ok d
      ↔ year.toInt ≤ 9999
        ∧ d.year = year.toInt
        ∧ d.month = period.lastMonth
        ∧ d.day = period.lastMonth.lengthIn year.toInt := by
  rw [toDate, boundary_eq_ok_iff, parse_last]
  split
  · next short =>
    rw [← Date.of?_eq_some_iff]
    cases Date.of? year.toInt period.lastMonth (period.lastMonth.lengthIn year.toInt) <;>
      simp [DateText.existing, short]
  · next long => simp [long]

theorem fromDate_eq_ok_iff {period : BillingPeriod} {year : Int32} {d : Date}
    : period.fromDate year = .ok d
      ↔ year.toInt ≤ 9999
        ∧ d.year = year.toInt
        ∧ d.month = period.firstMonth
        ∧ d.day = 1 := by
  rw [fromDate, boundary_eq_ok_iff, parse_first]
  split
  · next short =>
    rw [← Date.of?_eq_some_iff]
    cases Date.of? year.toInt period.firstMonth 1 <;> simp [DateText.existing, short]
  · next long => simp [long]

theorem months_le_number_lastMonth (period : BillingPeriod)
    : period.months ≤ period.lastMonth.number := by
  cases period with
  | yearly => decide
  | quarterly quarter => cases quarter <;> decide

theorem firstMonth_lt_lastMonth (period : BillingPeriod)
    : period.firstMonth.number < period.lastMonth.number := by
  cases period with
  | yearly => decide
  | quarterly quarter => cases quarter <;> decide

/-- A period that has boundaries starts before it ends. -/
theorem fromDate_lt_toDate {period : BillingPeriod} {year : Int32} {first last : Date}
    (starts : period.fromDate year = .ok first) (ends : period.toDate year = .ok last)
    : first < last := by
  obtain ⟨_, firstYear, firstMonth, _⟩ := fromDate_eq_ok_iff.mp starts
  obtain ⟨_, lastYear, lastMonth, _⟩ := toDate_eq_ok_iff.mp ends
  apply Date.dayNumber_lt_of_month_lt (firstYear.trans lastYear.symm)
  rw [firstMonth, lastMonth]
  exact period.firstMonth_lt_lastMonth

theorem boundary_failed {template : String} {year : Int32} {error : ChargeError}
    (h : boundary template year = .error error)
    : ∃ text fault, error = .invalidDate (.unresolvedBoundary text fault) := by
  simp only [boundary] at h
  rcases read : Date.parseDayMonthYear (template ++ Digits.intText year.toInt) with fault | date
  · rw [read] at h
    cases h
    exact ⟨_, fault, rfl⟩
  · rw [read] at h
    cases h

/-- A period that is not found in a year has a boundary that cannot be read; its boundaries are
never in the wrong order.
-/
theorem inYear_failed {period : BillingPeriod} {year : Int32} {error : ChargeError}
    (h : period.inYear year = .error error)
    : ∃ text fault, error = .invalidDate (.unresolvedBoundary text fault) := by
  unfold inYear at h
  split at h
  · next unread =>
    cases h
    exact boundary_failed unread
  · next starts =>
    split at h
    · next unread =>
      cases h
      exact boundary_failed unread
    · next ends =>
      rw [dif_pos (fromDate_lt_toDate starts ends)] at h
      cases h

theorem inYear_eq_ok {period : BillingPeriod} {year : Int32} {found : ChargePeriod}
    (h : period.inYear year = .ok found)
    : found.period = period ∧ found.year = year := by
  unfold inYear at h
  split at h
  · cases h
  · split at h
    · cases h
    · split at h
      · cases h
        exact ⟨rfl, rfl⟩
      · cases h

end BillingPeriod

/-- A charge period is what is found for its period in its year. -/
theorem ChargePeriod.inYear_self (period : ChargePeriod)
    : period.period.inYear period.year = .ok period := by
  unfold BillingPeriod.inYear
  split
  · next unread =>
    cases unread.symm.trans period.fromDate_eq
  · next starts =>
    cases starts.symm.trans period.fromDate_eq
    split
    · next unread =>
      cases unread.symm.trans period.toDate_eq
    · next ends =>
      cases ends.symm.trans period.toDate_eq
      rw [dif_pos period.fromDate_lt]

/-- The errors of a choice of a period: a code that names no month, or a boundary that cannot be
read.
-/
theorem PeriodChoice.resolve_failed {choice : PeriodChoice} {today : Date} {error : ChargeError}
    (h : choice.resolve today = .error error)
    : (∃ code, error = .invalidPeriodCode code)
      ∨ ∃ text fault, error = .invalidDate (.unresolvedBoundary text fault) := by
  rw [resolve] at h
  rcases chosen : choice.billingPeriod today with unnamed | period
  · rw [chosen] at h
    cases h
    unfold billingPeriod month at chosen
    split at chosen
    · split at chosen
      · next code _ =>
        split at chosen
        · cases chosen
        · unfold parseMonthCode at chosen
          split at chosen
          · cases chosen
          · cases chosen
            exact .inl ⟨code, rfl⟩
      · cases chosen
    · cases chosen
  · rw [chosen] at h
    exact .inr (BillingPeriod.inYear_failed h)

namespace ChargePeriod

open MonthWindow

/-- The last window is the whole month that the period ends with. -/
theorem whole_last_month (period : ChargePeriod)
    : (containing period.toDate).Whole
      ∧ (containing period.toDate).lastDay = period.toDate := by
  obtain ⟨_, year, month, day⟩ := BillingPeriod.toDate_eq_ok_iff.mp period.toDate_eq
  exact whole_containing (by rw [year, month, day])

/-- The windows of a period are whole months without a gap, the latest ending with the period. -/
theorem monthsBackFrom_windows (period : ChargePeriod)
    : MonthsBackFrom period.toDate.dayNumber period.windows := by
  obtain ⟨whole, last⟩ := period.whole_last_month
  have months := MonthWalk.takeSteps_months whole period.months
  rw [last] at months
  exact months

/-- The windows of a period are the months of its year from the last one of the period back. -/
theorem months_windows (period : ChargePeriod)
    : (period.windows.map fun w => (w.firstDay.year, w.firstDay.month.number))
      = (List.range period.months).map fun back =>
          (period.year.toInt, period.period.lastMonth.number - back) := by
  obtain ⟨whole, _⟩ := period.whole_last_month
  obtain ⟨_, year, month, _⟩ := BillingPeriod.toDate_eq_ok_iff.mp period.toDate_eq
  have first
      : (containing period.toDate).firstDay.year = period.year.toInt
        ∧ (containing period.toDate).firstDay.month = period.period.lastMonth :=
    ⟨year, month⟩
  have within : period.months ≤ (containing period.toDate).firstDay.month.number := by
    rw [first.2]
    exact period.period.months_le_number_lastMonth
  have months := MonthWalk.months_toList_in_year whole within
  rw [first.1, first.2] at months
  exact months

theorem length_windows (period : ChargePeriod)
    : period.windows.length = period.months := by
  have lengths := congrArg List.length period.months_windows
  simpa using lengths

/-- The latest month of a period ends with the period. -/
theorem exists_last_window (period : ChargePeriod)
    : ∃ last earlier, period.windows = last :: earlier ∧ last.lastDay = period.toDate := by
  have months := period.monthsBackFrom_windows
  have count := period.length_windows
  cases windows : period.windows with
  | nil =>
      rw [windows, ChargePeriod.months] at count
      cases kind : period.period <;> simp [kind, BillingPeriod.months] at count
  | cons last earlier =>
      rw [windows] at months
      exact ⟨last, earlier, rfl, Date.dayNumber_injective months.2.1⟩

theorem year_of_mem_windows {period : ChargePeriod} {window : MonthWindow}
    (member : window ∈ period.windows)
    : window.firstDay.year = period.year.toInt := by
  have listed : (window.firstDay.year, window.firstDay.month.number) ∈ _ :=
    List.mem_map_of_mem (f := fun w : MonthWindow => (w.firstDay.year, w.firstDay.month.number))
      member
  rw [period.months_windows, List.mem_map] at listed
  obtain ⟨_, _, same⟩ := listed
  exact (Prod.mk.inj same).1.symm

/-- A day follows every window, because no period ends with the calendar. -/
theorem exists_next?_lastDay {period : ChargePeriod} {window : MonthWindow}
    (member : window ∈ period.windows)
    : ∃ day, window.lastDay.next? = some day := by
  have whole := (period.monthsBackFrom_windows.forall_mem member).1
  obtain ⟨short, _⟩ := BillingPeriod.toDate_eq_ok_iff.mp period.toDate_eq
  apply Date.exists_next?
  rw [whole.year_eq, year_of_mem_windows member, Date.maxYear]
  omega

end ChargePeriod

end ChargeBasis

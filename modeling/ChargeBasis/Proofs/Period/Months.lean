import ChargeBasis.Proofs.Period.Quarters

/-!
The months of a period. A period is found exactly in the years of dates that four digits hold, and
its windows are then the calendar months from its first day to its last, each of them once and the
latest first.
-/

namespace ChargeBasis

-----------------------------------------------------------------------------------------
-- Years
-----------------------------------------------------------------------------------------

/-- A period is found in every year of dates that four digits hold, and in no other. -/
theorem BillingPeriod.exists_inYear_iff {period : BillingPeriod} {year : Int32}
    : (∃ found, period.inYear year = .ok found)
      ↔ (∃ d : Date, d.year = year.toInt) ∧ year.toInt ≤ 9999 := by
  constructor
  · intro exists_found
    obtain ⟨found, h⟩ := exists_found
    obtain ⟨rfl, rfl⟩ := inYear_eq_ok h
    obtain ⟨short, same, _⟩ := toDate_eq_ok_iff.mp found.toDate_eq
    exact ⟨⟨found.toDate, same⟩, short⟩
  · intro dated
    obtain ⟨⟨d, same⟩, short⟩ := dated
    have lower := same ▸ d.minYear_le
    have upper := same ▸ d.le_maxYear
    obtain ⟨first, firstFound⟩ :=
      Date.exists_of? lower upper (Nat.le_refl 1) (period.firstMonth.length_pos _)
    obtain ⟨last, lastFound⟩ :=
      Date.exists_of? lower upper (period.lastMonth.length_pos _) (Nat.le_refl _)
    have starts := fromDate_eq_ok_iff.mpr ⟨short, Date.of?_eq_some_iff.mp firstFound⟩
    have ends := toDate_eq_ok_iff.mpr ⟨short, Date.of?_eq_some_iff.mp lastFound⟩
    exact ⟨_, ChargePeriod.inYear_self
      ⟨period, year, first, last, starts, ends, fromDate_lt_toDate starts ends⟩⟩

/-- The months of a period go from its last one back to its first. -/
theorem BillingPeriod.number_firstMonth (period : BillingPeriod)
    : period.lastMonth.number - (period.months - 1) = period.firstMonth.number := by
  cases period with
  | yearly => rfl
  | quarterly quarter => cases quarter <;> rfl

namespace ChargePeriod

-----------------------------------------------------------------------------------------
-- Windows
-----------------------------------------------------------------------------------------

/-- The days of a window of a period are the dates of one month of its year. -/
theorem exists_month_of_mem_windows {period : ChargePeriod} {window : MonthWindow}
    (member : window ∈ period.windows)
    : ∃ month,
        ∀ d : Date,
          window.firstDay ≤ d ∧ d ≤ window.lastDay
          ↔ d.year = period.year.toInt ∧ d.month = month := by
  have whole := (period.monthsBackFrom_windows.forall_mem member).1
  refine ⟨window.firstDay.month, fun d => ?_⟩
  rw [whole.mem_iff, year_of_mem_windows member]

theorem head?_windows (period : ChargePeriod)
    : period.windows.head?.map (·.lastDay) = some period.toDate := by
  obtain ⟨last, earlier, windows, ends⟩ := period.exists_last_window
  rw [windows, List.head?_cons, Option.map_some, ends]

/-- The earliest month of a period starts with the period. -/
theorem getLast?_windows (period : ChargePeriod)
    : period.windows.getLast?.map (·.firstDay) = some period.fromDate := by
  have some_month : period.months ≠ 0 := by
    rw [months]
    cases period.period <;> simp [BillingPeriod.months]
  cases earliest : period.windows.getLast? with
  | none =>
      have count := period.length_windows
      rw [List.getLast?_eq_none_iff.mp earliest] at count
      exact absurd count.symm some_month
  | some window =>
      have listed := congrArg List.getLast? period.months_windows
      rw [List.getLast?_map, earliest, List.getLast?_map, List.getLast?_range, if_neg some_month,
        Option.map_some, Option.map_some, months, BillingPeriod.number_firstMonth] at listed
      obtain ⟨year, month⟩ := Prod.mk.inj (Option.some.inj listed)
      obtain ⟨_, ownYear, ownMonth, ownDay⟩ :=
        BillingPeriod.fromDate_eq_ok_iff.mp period.fromDate_eq
      have whole :=
        (period.monthsBackFrom_windows.forall_mem (List.mem_of_getLast? earliest)).1
      have same : window.firstDay = period.fromDate :=
        Date.eq_of_parts (year.trans ownYear.symm)
          (Month.number_injective (month.trans (congrArg Month.number ownMonth).symm))
          (whole.first.trans ownDay.symm)
      rw [Option.map_some, same]

end ChargePeriod

-----------------------------------------------------------------------------------------
-- All periods of a year
-----------------------------------------------------------------------------------------

namespace BillingPeriod

/-- In a year of dates that four digits hold every period is found; in any other year the date of a
boundary is at fault, never the order of the boundaries. The windows of a period are as many as it
has months, also if the walk is asked for more. The days of each are the dates of one month; each
starts on the day after the one before it in time ends, the first in the list ends and the last one
starts with the period. The months of the year are those of its quarters.
-/
theorem inYear_months (year : Int32)
    : (∀ period : BillingPeriod,
        ((∃ found, period.inYear year = .ok found)
          ↔ (∃ d : Date, d.year = year.toInt) ∧ year.toInt ≤ 9999)
        ∧ (∀ error, period.inYear year = .error error → ∃ fault, error = .invalidDate fault)
        ∧ ∀ found,
            period.inYear year = .ok found
            → found.period = period
              ∧ found.year = year
              ∧ found.windows.length = period.months
              ∧ (∀ count, period.months ≤ count → (found.monthWalk.take count).1 = found.windows)
              ∧ (∀ window ∈ found.windows,
                  ∃ month,
                    ∀ d : Date,
                      window.firstDay ≤ d ∧ d ≤ window.lastDay
                      ↔ d.year = year.toInt ∧ d.month = month)
              ∧ (found.windows.IsChain fun window previous =>
                  previous.lastDay.next? = some window.firstDay)
              ∧ found.windows.head?.map (·.lastDay) = some found.toDate
              ∧ found.windows.getLast?.map (·.firstDay) = some found.fromDate)
      ∧ ∀ periods : BillingPeriod → ChargePeriod,
          (∀ period, inYear period year = .ok (periods period))
          → (periods .yearly).windows
            = (periods (.quarterly .q4)).windows
              ++ (periods (.quarterly .q3)).windows
              ++ (periods (.quarterly .q2)).windows
              ++ (periods (.quarterly .q1)).windows := by
  constructor
  · intro period
    refine ⟨exists_inYear_iff, ?_, ?_⟩
    · intro error unfound
      obtain ⟨text, fault, same⟩ := inYear_failed unfound
      exact ⟨_, same⟩
    · intro found h
      obtain ⟨rfl, rfl⟩ := inYear_eq_ok h
      exact ⟨rfl, rfl, found.length_windows, fun _ enough => MonthWalk.take_of_le enough,
        fun _ member => ChargePeriod.exists_month_of_mem_windows member,
        found.monthsBackFrom_windows.isChain, found.head?_windows, found.getLast?_windows⟩
  · intro periods found
    rw [ChargePeriod.windows_yearly found]
    simp [Quarter.all]

/-- The months of the leap year 2024 are those of its quarters, and the first quarter has three; the
year 10000 is too long for a boundary.
-/
theorem inYear_months_2024
    : (∃ periods : BillingPeriod → ChargePeriod,
        (∀ period, inYear period 2024 = .ok (periods period))
        ∧ (periods .yearly).windows
          = (periods (.quarterly .q4)).windows
            ++ (periods (.quarterly .q3)).windows
            ++ (periods (.quarterly .q2)).windows
            ++ (periods (.quarterly .q1)).windows
        ∧ (periods (.quarterly .q1)).windows.length = 3
        ∧ (periods (.quarterly .q1)).windows.head?.map (·.lastDay)
          = some (periods (.quarterly .q1)).toDate)
      ∧ ∃ fault, inYear .yearly 10000 = .error (.invalidDate fault) := by
  constructor
  · obtain ⟨each, joined⟩ := inYear_months 2024
    have dated : ∃ d : Date, d.year = (2024 : Int32).toInt :=
      ⟨⟨2024, .february, 29, by decide, by decide, by decide, by decide⟩, by decide⟩
    choose periods found using fun period => (each period).1.mpr ⟨dated, by decide⟩
    obtain ⟨_, _, count, _, _, _, ends, _⟩ := (each (.quarterly .q1)).2.2 _ (found _)
    exact ⟨periods, found, joined periods found, count, ends⟩
  · obtain ⟨found, failed, _⟩ := (inYear_months 10000).1 .yearly
    cases outcome : inYear .yearly 10000 with
    | error error =>
        obtain ⟨fault, rfl⟩ := failed error outcome
        exact ⟨fault, rfl⟩
    | ok period =>
        have short := (found.mp ⟨period, outcome⟩).2
        exact absurd short (by decide)

end BillingPeriod

end ChargeBasis

import ChargeBasis.Calendar.Date

/-!
Day numbers as the view of dates. A date is determined by its day number, and the day before or
after it has the neighbouring number.
-/

namespace ChargeBasis

namespace Month

/-- The number of days in a common year or a leap year. -/
def yearLength (leap : Bool) : Nat :=
  if leap then 366 else 365

theorem mem_all (month : Month)
    : month ∈ all := by
  cases month <;> decide

/-- The months follow each other without a gap. -/
theorem daysBefore_of_next? {month following : Month} (h : month.next? = some following)
    (leap : Bool)
    : following.daysBefore leap = month.daysBefore leap + month.length leap := by
  cases month <;> cases h <;> cases leap <;> rfl

/-- The last month ends with the year. -/
theorem daysBefore_add_length_of_last {month : Month} (h : month.next? = none) (leap : Bool)
    : month.daysBefore leap + month.length leap = yearLength leap := by
  cases month with
  | december => cases leap <;> rfl
  | _ => cases h

/-- Only the first month has no days of the year before it and no month either. -/
theorem eq_january_of_previous? {month : Month} (h : month.previous? = none)
    : month = .january := by
  cases month <;> cases h
  rfl

theorem next?_of_previous? {month earlier : Month} (h : month.previous? = some earlier)
    : earlier.next? = some month := by
  cases month <;> cases h <;> rfl

theorem number_of_previous? {month earlier : Month} (h : month.previous? = some earlier)
    : earlier.number + 1 = month.number := by
  cases month <;> cases h <;> rfl

theorem length_pos (month : Month) (leap : Bool)
    : 1 ≤ month.length leap := by
  cases month <;> cases leap <;> decide

theorem le_length (month : Month) (leap : Bool)
    : 28 ≤ month.length leap := by
  cases month <;> cases leap <;> decide

theorem length_le (month : Month) (leap : Bool)
    : month.length leap ≤ 31 := by
  cases month <;> cases leap <;> decide

/-- An earlier month is over before a later one starts. -/
theorem daysBefore_add_length_le {earlier later : Month} (h : earlier.number < later.number)
    (leap : Bool)
    : earlier.daysBefore leap + earlier.length leap ≤ later.daysBefore leap := by
  have all_pairs
      : ∀ leap, ∀ earlier ∈ all, ∀ later ∈ all,
          earlier.number < later.number
          → earlier.daysBefore leap + earlier.length leap ≤ later.daysBefore leap := by
    decide
  exact all_pairs leap earlier (mem_all earlier) later (mem_all later) h

theorem daysBefore_add_length_le_yearLength (month : Month) (leap : Bool)
    : month.daysBefore leap + month.length leap ≤ yearLength leap := by
  cases month <;> cases leap <;> decide

theorem number_pos (month : Month)
    : 1 ≤ month.number := by
  cases month <;> decide

theorem number_le (month : Month)
    : month.number ≤ 12 := by
  cases month <;> decide

theorem number_injective {a b : Month} (h : a.number = b.number)
    : a = b := by
  cases a <;> cases b <;> first | rfl | cases h

end Month

namespace Date

theorem eq_of_parts {a b : Date} (year : a.year = b.year) (month : a.month = b.month)
    (day : a.day = b.day)
    : a = b := by
  cases a
  cases b
  cases year
  cases month
  cases day
  rfl

/-- A year lasts as long as its months. -/
theorem daysBeforeYear_succ (year : Int)
    : daysBeforeYear (year + 1)
      = daysBeforeYear year + Month.yearLength (isLeapYear year) := by
  -- each count of leap days goes up exactly in a multiple of its divisor
  have every4 : (year - 1 + 1) / 4 = (year - 1) / 4 + if year % 4 = 0 then 1 else 0 := by
    split <;> omega
  have every100
      : (year - 1 + 1) / 100 = (year - 1) / 100 + if year % 100 = 0 then 1 else 0 := by
    split <;> omega
  have every400
      : (year - 1 + 1) / 400 = (year - 1) / 400 + if year % 400 = 0 then 1 else 0 := by
    split <;> omega
  have leap
      : (Month.yearLength (isLeapYear year) : Int)
        = 365 + (if year % 4 = 0 then 1 else 0) - (if year % 100 = 0 then 1 else 0)
          + if year % 400 = 0 then 1 else 0 := by
    by_cases h4 : year % 4 = 0
    · by_cases h100 : year % 100 = 0 <;> by_cases h400 : year % 400 = 0 <;>
        simp [Month.yearLength, isLeapYear, h4, h100, h400]
      omega
    · have h100 : year % 100 ≠ 0 := by omega
      have h400 : year % 400 ≠ 0 := by omega
      simp [Month.yearLength, isLeapYear, h4, h100, h400]
  rw [leap]
  simp only [daysBeforeYear]
  rw [(by omega : year + 1 - 1 = year - 1 + 1), every4, every100, every400]
  omega

theorem daysBeforeYear_mono {a b : Int} (h : a ≤ b)
    : daysBeforeYear a ≤ daysBeforeYear b := by
  simp only [daysBeforeYear]
  omega

/-- A date lies within its year. -/
theorem dayNumber_bounds (d : Date)
    : daysBeforeYear d.year < d.dayNumber
      ∧ d.dayNumber ≤ daysBeforeYear (d.year + 1) := by
  have positive := d.day_pos
  have within : d.day ≤ d.month.length (isLeapYear d.year) := d.day_le
  have year := d.month.daysBefore_add_length_le_yearLength (isLeapYear d.year)
  rw [daysBeforeYear_succ, dayNumber]
  constructor <;> omega

theorem dayNumber_lt_of_year_lt {a b : Date} (h : a.year < b.year)
    : a.dayNumber < b.dayNumber := by
  have upper := (dayNumber_bounds a).2
  have lower := (dayNumber_bounds b).1
  have between := daysBeforeYear_mono (by omega : a.year + 1 ≤ b.year)
  omega

theorem dayNumber_lt_of_month_lt {a b : Date} (year : a.year = b.year)
    (h : a.month.number < b.month.number)
    : a.dayNumber < b.dayNumber := by
  have within : a.day ≤ a.month.length (isLeapYear b.year) := year ▸ a.day_le
  have months := Month.daysBefore_add_length_le h (isLeapYear b.year)
  have positive := b.day_pos
  simp only [dayNumber, year]
  omega

/-- A date that opens its month, or any date before one that closes its month, is compared by year
and month alone.
-/
theorem le_iff_of_edge {a b : Date} (edge : a.day = 1 ∨ b.day = b.month.lengthIn b.year)
    : a ≤ b ↔ a.year < b.year ∨ a.year = b.year ∧ a.month.number ≤ b.month.number := by
  change a.dayNumber ≤ b.dayNumber ↔ _
  rcases Int.lt_trichotomy a.year b.year with earlier | year | later
  · have number := dayNumber_lt_of_year_lt earlier
    exact iff_of_true (by omega) (.inl earlier)
  · rcases Nat.lt_trichotomy a.month.number b.month.number with before | equal | after
    · have number := dayNumber_lt_of_month_lt year before
      exact iff_of_true (by omega) (.inr ⟨year, by omega⟩)
    · have month := Month.number_injective equal
      have within : a.day ≤ b.month.lengthIn b.year := year ▸ month ▸ a.day_le
      have positive := b.day_pos
      have number : a.dayNumber ≤ b.dayNumber := by
        simp only [dayNumber, year, month]
        omega
      exact iff_of_true number (.inr ⟨year, by omega⟩)
    · have number := dayNumber_lt_of_month_lt year.symm after
      exact iff_of_false (by omega) (by omega)
  · have number := dayNumber_lt_of_year_lt later
    exact iff_of_false (by omega) (by omega)

/-- The day number determines the date: first its year, then its month, then its day. -/
theorem dayNumber_injective {a b : Date} (h : a.dayNumber = b.dayNumber)
    : a = b := by
  have year : a.year = b.year := by
    rcases Int.lt_trichotomy a.year b.year with earlier | same | later
    · have := dayNumber_lt_of_year_lt earlier
      omega
    · exact same
    · have := dayNumber_lt_of_year_lt later
      omega
  have month : a.month = b.month := by
    rcases Nat.lt_trichotomy a.month.number b.month.number with earlier | same | later
    · have := dayNumber_lt_of_month_lt year earlier
      omega
    · exact Month.number_injective same
    · have := dayNumber_lt_of_month_lt year.symm later
      omega
  have day : a.day = b.day := by
    simp only [dayNumber, year, month] at h
    omega
  exact eq_of_parts year month day

theorem eq_iff_dayNumber_eq {a b : Date}
    : a = b ↔ a.dayNumber = b.dayNumber :=
  ⟨congrArg dayNumber, dayNumber_injective⟩

theorem dayNumber_max (a b : Date)
    : (max a b).dayNumber = max a.dayNumber b.dayNumber := by
  change (if a.dayNumber ≤ b.dayNumber then b else a).dayNumber = _
  split <;> omega

/-- A date is found exactly by its parts. -/
theorem of?_eq_some_iff {year : Int} {month : Month} {day : Nat} {d : Date}
    : of? year month day = some d ↔ d.year = year ∧ d.month = month ∧ d.day = day := by
  constructor
  · intro h
    unfold of? at h
    split at h
    · cases h
      exact ⟨rfl, rfl, rfl⟩
    · cases h
  · intro parts
    obtain ⟨rfl, rfl, rfl⟩ := parts
    exact dif_pos ⟨d.minYear_le, d.le_maxYear, d.day_pos, d.day_le⟩

theorem exists_of? {year : Int} {month : Month} {day : Nat} (lower : minYear ≤ year)
    (upper : year ≤ maxYear) (positive : 1 ≤ day) (within : day ≤ month.lengthIn year)
    : ∃ d, of? year month day = some d :=
  ⟨_, dif_pos ⟨lower, upper, positive, within⟩⟩

/-- The first day of the next month follows the last day of a month. -/
theorem dayNumber_of_firstOfNextMonth? {d e : Date} (h : d.firstOfNextMonth? = some e)
    : e.dayNumber
      = daysBeforeYear d.year + d.month.daysBefore (isLeapYear d.year)
        + d.month.lengthIn d.year + 1 := by
  unfold firstOfNextMonth? at h
  cases following : d.month.next? with
  | some month =>
      rw [following] at h
      obtain ⟨year, rfl, day⟩ := of?_eq_some_iff.mp h
      rw [dayNumber, year, day, Month.daysBefore_of_next? following, Month.lengthIn]
      omega
  | none =>
      rw [following] at h
      obtain ⟨year, month, day⟩ := of?_eq_some_iff.mp h
      have whole := Month.daysBefore_add_length_of_last following (isLeapYear d.year)
      have first : Month.january.daysBefore (isLeapYear (d.year + 1)) = 0 := by
        cases isLeapYear (d.year + 1) <;> rfl
      rw [dayNumber, year, month, day, daysBeforeYear_succ, first, Month.lengthIn]
      omega

theorem dayNumber_of_next? {d e : Date} (h : d.next? = some e)
    : e.dayNumber = d.dayNumber + 1 := by
  unfold next? at h
  split at h
  · obtain ⟨year, month, day⟩ := of?_eq_some_iff.mp h
    simp only [dayNumber, year, month, day]
    omega
  · next last =>
    have within := d.day_le
    rw [dayNumber_of_firstOfNextMonth? h, dayNumber]
    omega

/-- Before the last year every day has one after it. -/
theorem exists_next? {d : Date} (h : d.year < maxYear)
    : ∃ e, d.next? = some e := by
  have lower := d.minYear_le
  unfold next?
  split
  · next inside => exact exists_of? lower (by omega) (by omega) inside
  · unfold firstOfNextMonth?
    split
    · next month _ => exact exists_of? lower (by omega) (Nat.le_refl 1) (month.length_pos _)
    · exact exists_of? (by omega) (by omega) (Nat.le_refl 1) (Month.length_pos _ _)

/-- A date that is not the last one has a day after it. -/
theorem exists_next?_of_lt {d a : Date} (h : d < a)
    : ∃ e, d.next? = some e := by
  have lower := d.minYear_le
  have upper := d.le_maxYear
  unfold next?
  split
  · next inside => exact exists_of? lower upper (by omega) inside
  · next last =>
    unfold firstOfNextMonth?
    split
    · next month _ => exact exists_of? lower upper (Nat.le_refl 1) (month.length_pos _)
    · next following =>
      -- the date closes its year, so the later one lies in another year
      have within := d.day_le
      have whole := Month.daysBefore_add_length_of_last following (isLeapYear d.year)
      have final : d.dayNumber = daysBeforeYear (d.year + 1) := by
        rw [daysBeforeYear_succ, dayNumber]
        simp only [Month.lengthIn] at last within
        omega
      have later : d.year < a.year := by
        rw [← Int.not_le]
        intro earlier
        have bound := (dayNumber_bounds a).2
        have mono := daysBeforeYear_mono (by omega : a.year + 1 ≤ d.year + 1)
        have after : d.dayNumber < a.dayNumber := h
        omega
      have most := a.le_maxYear
      exact exists_of? (by omega) (by omega) (Nat.le_refl 1) (Month.length_pos _ _)

/-- The day after a date is the date with the next number. -/
theorem next?_eq_some_iff {d e : Date}
    : d.next? = some e ↔ e.dayNumber = d.dayNumber + 1 := by
  constructor
  · exact dayNumber_of_next?
  · intro number
    have later : d < e := (by omega : d.dayNumber < e.dayNumber)
    obtain ⟨f, found⟩ := exists_next?_of_lt later
    rw [found, dayNumber_injective ((dayNumber_of_next? found).trans number.symm)]

theorem dayNumber_of_previous? {d e : Date} (h : d.previous? = some e)
    : e.dayNumber = d.dayNumber - 1 := by
  have positive := d.day_pos
  unfold previous? at h
  split at h
  · obtain ⟨year, month, day⟩ := of?_eq_some_iff.mp h
    simp only [dayNumber, year, month, day]
    omega
  · next first =>
    cases earlier : d.month.previous? with
    | some month =>
        rw [earlier] at h
        obtain ⟨year, rfl, day⟩ := of?_eq_some_iff.mp h
        have gap := Month.daysBefore_of_next? (Month.next?_of_previous? earlier)
          (isLeapYear d.year)
        simp only [dayNumber, year, day, gap, Month.lengthIn]
        omega
    | none =>
        rw [earlier] at h
        obtain ⟨year, month, day⟩ := of?_eq_some_iff.mp h
        have whole := Month.daysBefore_add_length_of_last (rfl : Month.december.next? = none)
          (isLeapYear (d.year - 1))
        have length : Month.december.length (isLeapYear (d.year - 1)) = 31 := rfl
        have start := daysBeforeYear_succ (d.year - 1)
        have none : Month.january.daysBefore (isLeapYear d.year) = 0 := by
          cases isLeapYear d.year <;> rfl
        rw [Int.sub_add_cancel] at start
        simp only [dayNumber, year, month, day, Month.eq_january_of_previous? earlier, none, start]
        omega

theorem exists_previous? {a d : Date} (h : a < d)
    : ∃ e, d.previous? = some e := by
  have upper := d.le_maxYear
  have within := d.day_le
  unfold previous?
  split
  · exact exists_of? d.minYear_le upper (by omega) (by omega)
  · next first =>
    split
    · next month _ => exact exists_of? d.minYear_le upper (month.length_pos _) (Nat.le_refl _)
    · next earlier =>
      have january : d.month = .january := Month.eq_january_of_previous? earlier
      rcases Int.lt_or_eq_of_le d.minYear_le with later | least
      · exact exists_of? (by omega) (by omega) (by decide) (Nat.le_refl 31)
      · have positive := d.day_pos
        have start := (dayNumber_bounds a).1
        have mono := daysBeforeYear_mono a.minYear_le
        have none : Month.january.daysBefore (isLeapYear d.year) = 0 := by
          cases isLeapYear d.year <;> rfl
        have before : a.dayNumber < d.dayNumber := h
        rw [least] at mono
        simp only [dayNumber, january, none] at before start
        omega

end Date

end ChargeBasis

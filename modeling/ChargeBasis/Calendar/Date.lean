import ChargeBasis.Calendar.Month

/-!
Dates of the Gregorian calendar, extended to all years from -262143 to 262142; year 0 exists.
The view of a date is its day number, counted from the last day of year 0, so that the dates of
the range are the integers of an interval.
-/

namespace ChargeBasis

/-- Whether the year has a 29th of February. -/
def isLeapYear (year : Int) : Bool :=
  year % 4 == 0 && (year % 100 != 0 || year % 400 == 0)

/-- The number of days in a month of a year. -/
def Month.lengthIn (month : Month) (year : Int) : Nat :=
  month.length (isLeapYear year)

/-- The first year that has dates. -/
def Date.minYear : Int := -262143

/-- The last year that has dates. -/
def Date.maxYear : Int := 262142

/-- A day of the calendar. -/
structure Date where
  year : Int
  month : Month
  day : Nat
  minYear_le : Date.minYear ≤ year
  le_maxYear : year ≤ Date.maxYear
  day_pos : 1 ≤ day
  day_le : day ≤ month.lengthIn year
  deriving DecidableEq

namespace Date

/-- The number of days from the last day of year 0 to the last day before `year`. -/
def daysBeforeYear (year : Int) : Int :=
  let past := year - 1
  365 * past + past / 4 - past / 100 + past / 400

/-- The number of days from the last day of year 0 to the date. -/
def dayNumber (d : Date) : Int :=
  daysBeforeYear d.year + d.month.daysBefore (isLeapYear d.year) + d.day

/-- Dates are ordered in time. -/
instance : LE Date := ⟨fun a b => a.dayNumber ≤ b.dayNumber⟩

instance : LT Date := ⟨fun a b => a.dayNumber < b.dayNumber⟩

instance (a b : Date) : Decidable (a ≤ b) :=
  inferInstanceAs (Decidable (a.dayNumber ≤ b.dayNumber))

instance (a b : Date) : Decidable (a < b) :=
  inferInstanceAs (Decidable (a.dayNumber < b.dayNumber))

/-- The later of two dates. -/
instance : Max Date := ⟨fun a b => if a ≤ b then b else a⟩

/-- The signed number of days from one date to another. -/
def daysBetween (start finish : Date) : Int :=
  finish.dayNumber - start.dayNumber

/-- The date with this year, month and day, if there is one. -/
def of? (year : Int) (month : Month) (day : Nat) : Option Date :=
  if h : minYear ≤ year ∧ year ≤ maxYear ∧ 1 ≤ day ∧ day ≤ month.lengthIn year then
    some ⟨year, month, day, h.1, h.2.1, h.2.2.1, h.2.2.2⟩
  else none

/-- The date with this year, month number and day, if there is one. -/
def ofNumbers? (year : Int) (month day : Nat) : Option Date :=
  (Month.ofNumber? month).bind fun month => of? year month day

/-- The first day of the month of a date. -/
def firstOfMonth (d : Date) : Date :=
  { d with day := 1, day_pos := Nat.le_refl 1, day_le := Nat.le_trans d.day_pos d.day_le }

/-- The last day of the month of a date. -/
def endOfMonth (d : Date) : Date where
  year := d.year
  month := d.month
  day := d.month.lengthIn d.year
  minYear_le := d.minYear_le
  le_maxYear := d.le_maxYear
  day_pos := Nat.le_trans d.day_pos d.day_le
  day_le := Nat.le_refl _

/-- The first day of the following month; the last month of the last year has none. -/
def firstOfNextMonth? (d : Date) : Option Date :=
  match d.month.next? with
  | some month => of? d.year month 1
  | none => of? (d.year + 1) .january 1

/-- The day after a date; the last date has none. -/
def next? (d : Date) : Option Date :=
  if d.day < d.month.lengthIn d.year then of? d.year d.month (d.day + 1)
  else d.firstOfNextMonth?

/-- The day before a date; the first date has none. -/
def previous? (d : Date) : Option Date :=
  if 1 < d.day then of? d.year d.month (d.day - 1)
  else
    match d.month.previous? with
    | some month => of? d.year month (month.lengthIn d.year)
    | none => of? (d.year - 1) .december 31

/-- The last day of the month as a billing window takes it: the day before the following month.
In the last month of all, which nothing follows, it is the date itself. -/
def lastOfMonth (d : Date) : Date :=
  if d.firstOfNextMonth?.isSome then d.endOfMonth else d

end Date

end ChargeBasis

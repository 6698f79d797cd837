import ChargeBasis.Calendar.Date
import ChargeBasis.Calendar.Walk

/-!
Month windows, and the two walks that the balances are rebuilt along: back through the months
before a date, and back through the days of a window.
-/

namespace ChargeBasis

-------------------------------------------------------------------------------
-- Days, latest first

/-- A walk from a date back to an earlier one, a day at a time. -/
structure DayWalk where
  current : Option Date
  downTo : Date
  deriving DecidableEq

namespace DayWalk

/-- The walk from `first` back to `downTo`, both included; it is over at once when `downTo` is
the later one. -/
def start (first downTo : Date) : DayWalk where
  current := if downTo ≤ first then some first else none
  downTo := downTo

/-- The next day of the walk. No day before `downTo` is computed. -/
def next? (walk : DayWalk) : Option (Date × DayWalk) :=
  walk.current.map fun day =>
    (day, { walk with current := if walk.downTo < day then day.previous? else none })

/-- At most `count` days of the walk, and the walk that is left. -/
def take (count : Nat) (walk : DayWalk) : List Date × DayWalk :=
  takeSteps next? count walk

/-- The number of days from the current one back to the last. -/
def length (walk : DayWalk) : Nat :=
  match walk.current with
  | some day => (Date.daysBetween walk.downTo day + 1).toNat
  | none => 0

/-- All days of the walk, latest first. -/
def toList (walk : DayWalk) : List Date :=
  (walk.take walk.length).1

end DayWalk

-------------------------------------------------------------------------------
-- Windows

/-- The part of a billing period that is summarised at once, normally a calendar month. -/
structure MonthWindow where
  firstDay : Date
  lastDay : Date
  deriving DecidableEq

namespace MonthWindow

/-- The calendar month of a date. -/
def containing (d : Date) : MonthWindow :=
  ⟨d.firstOfMonth, d.lastOfMonth⟩

/-- The number of days, both ends included. -/
def days (window : MonthWindow) : Int :=
  Date.daysBetween window.firstDay window.lastDay + 1

/-- The calendar month that ends on the day before the window. -/
def previous? (window : MonthWindow) : Option MonthWindow :=
  window.firstDay.previous?.map containing

/-- The days of the window from the last one back to `floor`, or to the first one if that is
later. -/
def daysDescending (window : MonthWindow) (floor : Date) : DayWalk :=
  .start window.lastDay (max window.firstDay floor)

end MonthWindow

-------------------------------------------------------------------------------
-- Months, latest first

/-- A walk back through calendar months. -/
structure MonthWalk where
  upcoming : Option MonthWindow
  remaining : Nat
  deriving DecidableEq

namespace MonthWalk

/-- The walk of `count` months that starts with the month of a date. -/
def start (periodEnd : Date) (count : Nat) : MonthWalk where
  upcoming := some (.containing periodEnd)
  remaining := count

/-- The next month of the walk; before the first month of the calendar there is none. -/
def next? (walk : MonthWalk) : Option (MonthWindow × MonthWalk) :=
  if walk.remaining = 0 then none
  else walk.upcoming.map fun window => (window, ⟨window.previous?, walk.remaining - 1⟩)

/-- At most `count` months of the walk, and the walk that is left. -/
def take (count : Nat) (walk : MonthWalk) : List MonthWindow × MonthWalk :=
  takeSteps next? count walk

/-- All months of the walk, latest first. -/
def toList (walk : MonthWalk) : List MonthWindow :=
  (walk.take walk.remaining).1

/-- Bounds for the number of months still to come. -/
def sizeHint (walk : MonthWalk) : Nat × Nat :=
  (0, walk.remaining)

end MonthWalk

end ChargeBasis

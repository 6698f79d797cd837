import ChargeBasis.Calendar.MonthWindow
import ChargeBasis.Period.BillingPeriod

/-! Billing periods of a certain year, with their first and last day. -/

namespace ChargeBasis

/-- A billing period in a year; its boundaries are those that the period has in that year. -/
structure ChargePeriod where
  period : BillingPeriod
  year : Int32
  fromDate : Date
  toDate : Date
  fromDate_eq : period.fromDate year = .ok fromDate
  toDate_eq : period.toDate year = .ok toDate
  fromDate_lt : fromDate < toDate
  deriving DecidableEq

/-- The billing period in a year, if the year has dates. -/
def BillingPeriod.inYear (period : BillingPeriod) (year : Int32)
    : Except ChargeError ChargePeriod :=
  match hf : period.fromDate year with
  | .error e => .error e
  | .ok fromDate =>
    match ht : period.toDate year with
    | .error e => .error e
    | .ok toDate =>
      if h : fromDate < toDate then .ok ⟨period, year, fromDate, toDate, hf, ht, h⟩
      else .error (.invalidDateRange fromDate toDate)

namespace ChargePeriod

/-- The number of months of the period. -/
def months (period : ChargePeriod) : Nat :=
  period.period.months

/-- The walk through the months of the period, latest first. -/
def monthWalk (period : ChargePeriod) : MonthWalk :=
  .start period.toDate period.months

/-- The months of the period, latest first. -/
def windows (period : ChargePeriod) : List MonthWindow :=
  period.monthWalk.toList

/-- The text of a period: its name, year and boundaries. -/
def text (period : ChargePeriod) : String :=
  period.period.name ++ " " ++ Digits.intText period.year.toInt
    ++ " (" ++ period.fromDate.text ++ " to " ++ period.toDate.text ++ ")"

end ChargePeriod

end ChargeBasis

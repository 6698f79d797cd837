import ChargeBasis.Error

/-! The billing periods of a year: four quarters and the year as a whole. -/

namespace ChargeBasis

/-- How a year is divided into billing periods. -/
inductive CalculationMethod where
  | quarterly
  | yearly
  deriving DecidableEq, Repr

/-- A calendar quarter. -/
inductive Quarter where
  | q1
  | q2
  | q3
  | q4
  deriving DecidableEq, Repr

namespace Quarter

/-- The quarters in the order of the year. -/
def all : List Quarter := [q1, q2, q3, q4]

/-- The quarter that a month belongs to. -/
def containing : Month → Quarter
  | .january | .february | .march => q1
  | .april | .may | .june => q2
  | .july | .august | .september => q3
  | .october | .november | .december => q4

/-- The place of a quarter in the year, from one to four. -/
def id : Quarter → Nat
  | q1 => 1
  | q2 => 2
  | q3 => 3
  | q4 => 4

/-- The name of a quarter. -/
def name : Quarter → String
  | q1 => "Q1"
  | q2 => "Q2"
  | q3 => "Q3"
  | q4 => "Q4"

/-- The first and the last day of a quarter, to be completed by a year. -/
def boundaryTemplates : Quarter → String × String
  | q1 => ("01 Jan ", "31 Mar ")
  | q2 => ("01 Apr ", "30 Jun ")
  | q3 => ("01 Jul ", "30 Sep ")
  | q4 => ("01 Oct ", "31 Dec ")

end Quarter

/-- A part of a year that is charged at once. -/
inductive BillingPeriod where
  | quarterly (quarter : Quarter)
  | yearly
  deriving DecidableEq, Repr

namespace BillingPeriod

/-- All billing periods, the quarters first. -/
def all : List BillingPeriod :=
  Quarter.all.map quarterly ++ [yearly]

/-- The number of a period among those of its method. -/
def id : BillingPeriod → Nat
  | quarterly quarter => quarter.id
  | yearly => 1

/-- The name of a period. -/
def name : BillingPeriod → String
  | quarterly quarter => quarter.name
  | yearly => "YEARLY"

/-- The method that a period belongs to. -/
def method : BillingPeriod → CalculationMethod
  | quarterly _ => .quarterly
  | yearly => .yearly

/-- The number of months of a period. -/
def months : BillingPeriod → Nat
  | quarterly _ => 3
  | yearly => 12

/-- The first and the last day of a period, to be completed by a year. -/
def boundaryTemplates : BillingPeriod → String × String
  | quarterly quarter => quarter.boundaryTemplates
  | yearly => ("01 Jan ", "31 Dec ")

/-- The date that a template and a year name. -/
def boundary (template : String) (year : Int32) : Except ChargeError Date :=
  let text := template ++ Digits.intText year.toInt
  (Date.parseDayMonthYear text).mapError fun fault =>
    .invalidDate (.unresolvedBoundary text fault)

/-- The first day of a period in a year. -/
def fromDate (period : BillingPeriod) (year : Int32) : Except ChargeError Date :=
  boundary period.boundaryTemplates.1 year

/-- The last day of a period in a year. -/
def toDate (period : BillingPeriod) (year : Int32) : Except ChargeError Date :=
  boundary period.boundaryTemplates.2 year

end BillingPeriod

end ChargeBasis

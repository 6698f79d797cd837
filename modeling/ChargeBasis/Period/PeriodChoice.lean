import ChargeBasis.Period.ChargePeriod
import ChargeBasis.Text.Blank

/-! The choice of a billing period, completed by today's date where it leaves something open. -/

namespace ChargeBasis

/-- Which period to charge: the month names the quarter, today's month when it is absent or
blank; the year is this year when it is absent or zero. -/
structure PeriodChoice where
  method : CalculationMethod
  monthCode : Option String
  year : Option Int32
  deriving DecidableEq

namespace PeriodChoice

/-- The current period of a method. -/
def current (method : CalculationMethod) : PeriodChoice :=
  ⟨method, none, none⟩

/-- The month that a code names. -/
def parseMonthCode (code : String) : Except ChargeError Month :=
  match Month.ofCode? code with
  | some month => .ok month
  | none => .error (.invalidPeriodCode code)

/-- The month that decides on the quarter. -/
def month (choice : PeriodChoice) (today : Date) : Except ChargeError Month :=
  match choice.monthCode.map Text.trimmed with
  | some code => if code = "" then .ok today.month else parseMonthCode code
  | none => .ok today.month

/-- The billing period of the choice. The month does not matter for a yearly one. -/
def billingPeriod (choice : PeriodChoice) (today : Date) : Except ChargeError BillingPeriod :=
  match choice.method with
  | .quarterly => (choice.month today).map fun month => .quarterly (.containing month)
  | .yearly => .ok .yearly

/-- The year of the choice. -/
def chosenYear (choice : PeriodChoice) (today : Date) : Int32 :=
  match choice.year with
  | some year => if year = 0 then .ofInt today.year else year
  | none => .ofInt today.year

/-- The period to charge, seen from today. -/
def resolve (choice : PeriodChoice) (today : Date) : Except ChargeError ChargePeriod := do
  let period ← choice.billingPeriod today
  period.inYear (choice.chosenYear today)

end PeriodChoice

end ChargeBasis

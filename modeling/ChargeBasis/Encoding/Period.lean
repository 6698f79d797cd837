import ChargeBasis.Encoding.Scalars
import ChargeBasis.Period.PeriodChoice

/-!
Billing periods as JSON. A charge period is written with its boundaries; when it is read they are
derived again, and boundaries that are given have to agree with them.
-/

namespace ChargeBasis

open Json (Decoder Field DecodeError)

namespace CalculationMethod

/-- The methods by name. -/
def choices : List (String × CalculationMethod) :=
  [("Quarterly", quarterly), ("Yearly", yearly)]

/-- The name of a method. -/
def label : CalculationMethod → String
  | quarterly => "Quarterly"
  | yearly => "Yearly"

/-- The JSON value of a method. -/
def toJson (method : CalculationMethod) : Json :=
  .text method.label

/-- Reads a method from JSON. -/
def ofJson : Decoder CalculationMethod :=
  .oneOf choices

end CalculationMethod

namespace Quarter

/-- The quarters by name. -/
def choices : List (String × Quarter) :=
  all.map fun quarter => (quarter.name, quarter)

/-- The JSON value of a quarter. -/
def toJson (quarter : Quarter) : Json :=
  .text quarter.name

/-- Reads a quarter from JSON. -/
def ofJson : Decoder Quarter :=
  .oneOf choices

end Quarter

namespace BillingPeriod

/-- The JSON value of a billing period: the quarter stands behind the name of its method. -/
def toJson : BillingPeriod → Json
  | quarterly quarter => .object [("Quarterly", quarter.toJson)]
  | yearly => .text "Yearly"

/-- What stands behind the name of a billing period. -/
def ofVariant (name : String) (payload : Option Json) : Except DecodeError BillingPeriod :=
  if name = "Quarterly" then
    match payload with
    | some j => (Quarter.ofJson j).map quarterly
    | none => .error .unexpected
  else Decoder.unit yearly payload

/-- Reads a billing period from JSON. -/
def ofJson : Decoder BillingPeriod :=
  .variant ["Quarterly", "Yearly"] ofVariant

end BillingPeriod

namespace PeriodChoice

/-- The JSON object of a choice of period. -/
def toJson (choice : PeriodChoice) : Json :=
  .object [("calculation_method", choice.method.toJson),
    ("month_code", .ofOption .text choice.monthCode),
    ("year", .ofOption .ofInt32 choice.year)]

/-- The fields of a choice of period. -/
def fields : List Field :=
  [.of "calculation_method" CalculationMethod.ofJson,
    .of "month_code" Decoder.string.nullable, .of "year" Decoder.int32.nullable]

/-- Reads a choice of period from JSON. -/
def ofJson : Decoder PeriodChoice := fun j => do
  let record ← Json.Record.read fields j
  return {
    method := ← record.get "calculation_method" CalculationMethod.ofJson
    monthCode := ← record.get? "month_code" Decoder.string
    year := ← record.get? "year" Decoder.int32 }

end PeriodChoice

namespace ChargePeriod

/-- The JSON object of a charge period. -/
def toJson (period : ChargePeriod) : Json :=
  .object [("period", period.period.toJson), ("year", .ofInt32 period.year),
    ("from_date", period.fromDate.toJson), ("to_date", period.toDate.toJson)]

/-- The fields of a charge period. -/
def fields : List Field :=
  [.of "period" BillingPeriod.ofJson, .of "year" Decoder.int32,
    .of "from_date" Date.ofJson.nullable, .of "to_date" Date.ofJson.nullable]

/-- The charge period of a year, if the boundaries that are given are its own. -/
def withBoundaries (period : BillingPeriod) (year : Int32) (fromDate toDate : Option Date)
    : Except ChargeError ChargePeriod := do
  let derived ← period.inYear year
  let first := fromDate.getD derived.fromDate
  let last := toDate.getD derived.toDate
  if first = derived.fromDate ∧ last = derived.toDate then return derived
  else throw (.invalidDateRange first last)

/-- Reads a charge period from JSON. -/
def ofJson : Decoder ChargePeriod := fun j => do
  let record ← Json.Record.read fields j
  let period ← record.get "period" BillingPeriod.ofJson
  let year ← record.get "year" Decoder.int32
  let fromDate ← record.get? "from_date" Date.ofJson
  let toDate ← record.get? "to_date" Date.ofJson
  (withBoundaries period year fromDate toDate).mapError fun e => .rejected e.message

end ChargePeriod

end ChargeBasis

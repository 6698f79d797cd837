import ChargeBasis.Encoding.BalanceSeries
import ChargeBasis.Json.Writer
import ChargeBasis.Report

/-! Reports as JSON text. -/

namespace ChargeBasis

open Json (Decoder Field)

namespace PeriodSection

/-- The JSON object of a period section. -/
def toJson (period : PeriodSection) : Json :=
  .object [("name", .text period.name), ("year", .ofInt32 period.year),
    ("from_date", period.fromDate.toJson), ("to_date", period.toDate.toJson),
    ("months", .ofUInt32 period.months)]

/-- The fields of a period section. -/
def fields : List Field :=
  [.of "name" Decoder.string, .of "year" Decoder.int32, .of "from_date" Date.ofJson,
    .of "to_date" Date.ofJson, .of "months" Decoder.uint32]

/-- Reads a period section from JSON. -/
def ofJson : Decoder PeriodSection := fun j => do
  let record ← Json.Record.read fields j
  return {
    name := ← record.get "name" Decoder.string
    year := ← record.get "year" Decoder.int32
    fromDate := ← record.get "from_date" Date.ofJson
    toDate := ← record.get "to_date" Date.ofJson
    months := ← record.get "months" Decoder.uint32 }

end PeriodSection

namespace CategorySection

/-- The JSON object of a category section. -/
def toJson (category : CategorySection) : Json :=
  .object [("loan_count", .ofNat category.loanCount),
    ("monthly_outstanding", .ofList Money.toJson category.monthlyOutstanding),
    ("monthly_repayments", .ofList Money.toJson category.monthlyRepayments),
    ("total_outstanding", category.totalOutstanding.toJson),
    ("total_repayments", category.totalRepayments.toJson)]

/-- The fields of a category section. -/
def fields : List Field :=
  [.of "loan_count" Decoder.count, .of "monthly_outstanding" Money.ofJson.list,
    .of "monthly_repayments" Money.ofJson.list, .of "total_outstanding" Money.ofJson,
    .of "total_repayments" Money.ofJson]

/-- Reads a category section from JSON. -/
def ofJson : Decoder CategorySection := fun j => do
  let record ← Json.Record.read fields j
  return {
    loanCount := ← record.get "loan_count" Decoder.count
    monthlyOutstanding := ← record.get "monthly_outstanding" Money.ofJson.list
    monthlyRepayments := ← record.get "monthly_repayments" Money.ofJson.list
    totalOutstanding := ← record.get "total_outstanding" Money.ofJson
    totalRepayments := ← record.get "total_repayments" Money.ofJson }

end CategorySection

namespace FailureEntry

/-- The JSON object of a failure. -/
def toJson (failure : FailureEntry) : Json :=
  .object [("loan_id", .ofUInt64 failure.loan), ("reason", .text failure.reason)]

/-- The fields of a failure. -/
def fields : List Field :=
  [.of "loan_id" Decoder.uint64, .of "reason" Decoder.string]

/-- Reads a failure from JSON. -/
def ofJson : Decoder FailureEntry := fun j => do
  let record ← Json.Record.read fields j
  return {
    loan := ← record.get "loan_id" Decoder.uint64
    reason := ← record.get "reason" Decoder.string }

end FailureEntry

namespace Report

/-- The JSON object of a report. -/
def toJson (report : Report) : Json :=
  .object [("run_id", report.run.toJson), ("period", report.period.toJson),
    ("demand_loans", report.demandLoans.toJson), ("term_loans", report.termLoans.toJson),
    ("total_outstanding_amount", report.totalOutstanding.toJson),
    ("loans", .ofList BalanceSeries.toJson report.loans),
    ("failures", .ofList FailureEntry.toJson report.failures)]

/-- The fields of a report. -/
def fields : List Field :=
  [.of "run_id" Uuid.ofJson, .of "period" PeriodSection.ofJson,
    .of "demand_loans" CategorySection.ofJson, .of "term_loans" CategorySection.ofJson,
    .of "total_outstanding_amount" Money.ofJson, .of "loans" BalanceSeries.ofJson.list,
    .of "failures" FailureEntry.ofJson.list]

/-- Reads a report from JSON. -/
def ofJson : Decoder Report := fun j => do
  let record ← Json.Record.read fields j
  return {
    run := ← record.get "run_id" Uuid.ofJson
    period := ← record.get "period" PeriodSection.ofJson
    demandLoans := ← record.get "demand_loans" CategorySection.ofJson
    termLoans := ← record.get "term_loans" CategorySection.ofJson
    totalOutstanding := ← record.get "total_outstanding_amount" Money.ofJson
    loans := ← record.get "loans" BalanceSeries.ofJson.list
    failures := ← record.get "failures" FailureEntry.ofJson.list }

/-- The text of a report, one field a line. -/
def text (report : Report) : String :=
  report.toJson.pretty

end Report

/-- The text of the report of an assessment that visits the series in some order. -/
def ChargeConfig.reportTextIn (order : List BalanceSeries → List BalanceSeries)
    (config : ChargeConfig) (portfolio : Portfolio) : Reading String := do
  let report ← reportIn order config portfolio
  return report.text

end ChargeBasis

import ChargeBasis.AuditEvent
import ChargeBasis.Encoding.Loan
import ChargeBasis.Encoding.Period

/-! Audit events as JSON: an object whose only key names the kind of event. -/

namespace ChargeBasis.AuditEvent

open Json (Decoder Field Record DecodeError)

/-- The kinds of event in order. -/
def names : List String :=
  ["PeriodResolved", "LoanSummarised", "LoanSummaryReused", "LoanSummaryFailed",
    "PortfolioAggregated"]

/-- The JSON object of an event. -/
def toJson : AuditEvent → Json
  | periodResolved run period year fromDate toDate =>
    .object [("PeriodResolved",
      .object [("run_id", run.toJson), ("period", period.toJson), ("year", .ofInt32 year),
        ("from_date", fromDate.toJson), ("to_date", toDate.toJson)])]
  | loanSummarised run loan mode totalOutstanding totalRepayments =>
    .object [("LoanSummarised",
      .object [("run_id", run.toJson), ("loan_id", .ofUInt64 loan), ("mode", mode.toJson),
        ("total_outstanding", totalOutstanding.toJson),
        ("total_repayments", totalRepayments.toJson)])]
  | loanSummaryReused run loan =>
    .object [("LoanSummaryReused",
      .object [("run_id", run.toJson), ("loan_id", .ofUInt64 loan)])]
  | loanSummaryFailed run loan reason =>
    .object [("LoanSummaryFailed",
      .object [("run_id", run.toJson), ("loan_id", .ofUInt64 loan), ("reason", .text reason)])]
  | portfolioAggregated run isDemandLoan loanCount totalOutstanding =>
    .object [("PortfolioAggregated",
      .object [("run_id", run.toJson), ("is_demand_loan", .bool isDemandLoan),
        ("loan_count", .ofNat loanCount), ("total_outstanding", totalOutstanding.toJson)])]

/-- Reads the body of a resolved period. -/
def readPeriodResolved : Decoder AuditEvent := fun j => do
  let record ← Record.read
    [.of "run_id" Uuid.ofJson, .of "period" BillingPeriod.ofJson, .of "year" Decoder.int32,
      .of "from_date" Date.ofJson, .of "to_date" Date.ofJson] j
  return .periodResolved (← record.get "run_id" Uuid.ofJson)
    (← record.get "period" BillingPeriod.ofJson) (← record.get "year" Decoder.int32)
    (← record.get "from_date" Date.ofJson) (← record.get "to_date" Date.ofJson)

/-- Reads the body of a summarised loan. -/
def readLoanSummarised : Decoder AuditEvent := fun j => do
  let record ← Record.read
    [.of "run_id" Uuid.ofJson, .of "loan_id" Decoder.uint64, .of "mode" SummaryMode.ofJson,
      .of "total_outstanding" Money.ofJson, .of "total_repayments" Money.ofJson] j
  return .loanSummarised (← record.get "run_id" Uuid.ofJson)
    (← record.get "loan_id" Decoder.uint64) (← record.get "mode" SummaryMode.ofJson)
    (← record.get "total_outstanding" Money.ofJson)
    (← record.get "total_repayments" Money.ofJson)

/-- Reads the body of a reused summary. -/
def readLoanSummaryReused : Decoder AuditEvent := fun j => do
  let record ← Record.read [.of "run_id" Uuid.ofJson, .of "loan_id" Decoder.uint64] j
  return .loanSummaryReused (← record.get "run_id" Uuid.ofJson)
    (← record.get "loan_id" Decoder.uint64)

/-- Reads the body of a failed summary. -/
def readLoanSummaryFailed : Decoder AuditEvent := fun j => do
  let record ← Record.read
    [.of "run_id" Uuid.ofJson, .of "loan_id" Decoder.uint64, .of "reason" Decoder.string] j
  return .loanSummaryFailed (← record.get "run_id" Uuid.ofJson)
    (← record.get "loan_id" Decoder.uint64) (← record.get "reason" Decoder.string)

/-- Reads the body of an aggregation. -/
def readPortfolioAggregated : Decoder AuditEvent := fun j => do
  let record ← Record.read
    [.of "run_id" Uuid.ofJson, .of "is_demand_loan" Decoder.bool,
      .of "loan_count" Decoder.count, .of "total_outstanding" Money.ofJson] j
  return .portfolioAggregated (← record.get "run_id" Uuid.ofJson)
    (← record.get "is_demand_loan" Decoder.bool) (← record.get "loan_count" Decoder.count)
    (← record.get "total_outstanding" Money.ofJson)

/-- Reads the body that belongs to the name of an event. -/
def readBody (name : String) : Decoder AuditEvent :=
  match name with
  | "PeriodResolved" => readPeriodResolved
  | "LoanSummarised" => readLoanSummarised
  | "LoanSummaryReused" => readLoanSummaryReused
  | "LoanSummaryFailed" => readLoanSummaryFailed
  | _ => readPortfolioAggregated

/-- Reads an event from JSON; a name without a body is none. -/
def ofJson : Decoder AuditEvent :=
  .variant names fun name payload =>
    match payload with
    | some body => readBody name body
    | none => .error .unexpected

end ChargeBasis.AuditEvent

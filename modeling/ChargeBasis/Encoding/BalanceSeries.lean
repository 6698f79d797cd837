import ChargeBasis.Encoding.Loan
import ChargeBasis.Summary.BalanceSeries

/-! Balance series as JSON. The two lists of a series that is read may differ in length. -/

namespace ChargeBasis.BalanceSeries

open Json (Decoder Field)

/-- The JSON object of a series. -/
def toJson (series : BalanceSeries) : Json :=
  .object [("loan_id", .ofUInt64 series.loan), ("is_demand_loan", .bool series.isDemandLoan),
    ("disbursement_date", series.disbursementDate.toJson), ("mode", series.mode.toJson),
    ("outstanding", .ofList Money.toJson series.outstanding),
    ("repayments", .ofList Money.toJson series.repayments)]

/-- The fields of a series. -/
def fields : List Field :=
  [.of "loan_id" Decoder.uint64, .of "is_demand_loan" Decoder.bool,
    .of "disbursement_date" Date.ofJson, .of "mode" SummaryMode.ofJson,
    .of "outstanding" Money.ofJson.list, .of "repayments" Money.ofJson.list]

/-- Reads a series from JSON. -/
def ofJson : Decoder BalanceSeries := fun j => do
  let record ← Json.Record.read fields j
  return {
    loan := ← record.get "loan_id" Decoder.uint64
    isDemandLoan := ← record.get "is_demand_loan" Decoder.bool
    disbursementDate := ← record.get "disbursement_date" Date.ofJson
    mode := ← record.get "mode" SummaryMode.ofJson
    outstanding := ← record.get "outstanding" Money.ofJson.list
    repayments := ← record.get "repayments" Money.ofJson.list }

end ChargeBasis.BalanceSeries

import ChargeBasis.Encoding.Scalars
import ChargeBasis.Loan

/-! Loans, loan products and loan transactions as JSON. -/

namespace ChargeBasis

open Json (Decoder Field)

-------------------------------------------------------------------------------
-- Enumerations

namespace LoanCategory

/-- The categories by name. -/
def choices : List (String × LoanCategory) :=
  [("Demand", demand), ("Term", term)]

/-- The name of a category. -/
def label : LoanCategory → String
  | demand => "Demand"
  | term => "Term"

/-- The JSON value of a category. -/
def toJson (category : LoanCategory) : Json :=
  .text category.label

/-- Reads a category from JSON. -/
def ofJson : Decoder LoanCategory :=
  .oneOf choices

end LoanCategory

namespace SummaryMode

/-- The modes by name. -/
def choices : List (String × SummaryMode) :=
  [("Monthly", monthly), ("Daily", daily)]

/-- The name of a mode. -/
def label : SummaryMode → String
  | monthly => "Monthly"
  | daily => "Daily"

/-- The JSON value of a mode. -/
def toJson (mode : SummaryMode) : Json :=
  .text mode.label

/-- Reads a mode from JSON. -/
def ofJson : Decoder SummaryMode :=
  .oneOf choices

end SummaryMode

namespace TransactionKind

/-- The kinds of transaction by name. -/
def choices : List (String × TransactionKind) :=
  [("Disbursement", disbursement), ("Repayment", repayment),
    ("RepaymentAtDisbursement", repaymentAtDisbursement), ("Waiver", waiver),
    ("WriteOff", writeOff), ("Accrual", accrual), ("Charge", charge)]

/-- The name of a kind of transaction. -/
def label : TransactionKind → String
  | disbursement => "Disbursement"
  | repayment => "Repayment"
  | repaymentAtDisbursement => "RepaymentAtDisbursement"
  | waiver => "Waiver"
  | writeOff => "WriteOff"
  | accrual => "Accrual"
  | charge => "Charge"

/-- The JSON value of a kind of transaction. -/
def toJson (kind : TransactionKind) : Json :=
  .text kind.label

/-- Reads a kind of transaction from JSON. -/
def ofJson : Decoder TransactionKind :=
  .oneOf choices

end TransactionKind

-------------------------------------------------------------------------------
-- Records

namespace LoanTransaction

/-- The JSON object of a transaction. -/
def toJson (t : LoanTransaction) : Json :=
  .object [("loan_id", .ofUInt64 t.loan), ("transaction_date", t.date.toJson),
    ("transaction_type", t.kind.toJson), ("amount", t.amount.toJson),
    ("principal_portion", t.principalPortion.toJson)]

/-- The fields of a transaction. -/
def fields : List Field :=
  [.of "loan_id" Decoder.uint64, .of "transaction_date" Date.ofJson,
    .of "transaction_type" TransactionKind.ofJson, .of "amount" Money.ofJson,
    .of "principal_portion" Money.ofJson]

/-- Reads a transaction from JSON. -/
def ofJson : Decoder LoanTransaction := fun j => do
  let record ← Json.Record.read fields j
  return {
    loan := ← record.get "loan_id" Decoder.uint64
    date := ← record.get "transaction_date" Date.ofJson
    kind := ← record.get "transaction_type" TransactionKind.ofJson
    amount := ← record.get "amount" Money.ofJson
    principalPortion := ← record.get "principal_portion" Money.ofJson }

end LoanTransaction

namespace Loan

/-- The JSON object of a loan. -/
def toJson (loan : Loan) : Json :=
  .object [("id", .ofUInt64 loan.id), ("client_id", .ofUInt64 loan.client),
    ("product_id", .ofUInt64 loan.product),
    ("principal_outstanding", loan.principalOutstanding.toJson),
    ("total_outstanding_amount", loan.totalOutstanding.toJson),
    ("disbursement_date", loan.disbursementDate.toJson)]

/-- The fields of a loan. -/
def fields : List Field :=
  [.of "id" Decoder.uint64, .of "client_id" Decoder.uint64, .of "product_id" Decoder.uint64,
    .of "principal_outstanding" Money.ofJson, .of "total_outstanding_amount" Money.ofJson,
    .of "disbursement_date" Date.ofJson]

/-- Reads a loan from JSON. -/
def ofJson : Decoder Loan := fun j => do
  let record ← Json.Record.read fields j
  return {
    id := ← record.get "id" Decoder.uint64
    client := ← record.get "client_id" Decoder.uint64
    product := ← record.get "product_id" Decoder.uint64
    principalOutstanding := ← record.get "principal_outstanding" Money.ofJson
    totalOutstanding := ← record.get "total_outstanding_amount" Money.ofJson
    disbursementDate := ← record.get "disbursement_date" Date.ofJson }

end Loan

namespace LoanProduct

/-- The JSON object of a product. -/
def toJson (product : LoanProduct) : Json :=
  .object [("id", .ofUInt64 product.id), ("name", .text product.name),
    ("short_name", .text product.shortName), ("category", product.category.toJson)]

/-- The fields of a product. -/
def fields : List Field :=
  [.of "id" Decoder.uint64, .of "name" Decoder.string, .of "short_name" Decoder.string,
    .of "category" LoanCategory.ofJson]

/-- Reads a product from JSON. -/
def ofJson : Decoder LoanProduct := fun j => do
  let record ← Json.Record.read fields j
  return {
    id := ← record.get "id" Decoder.uint64
    name := ← record.get "name" Decoder.string
    shortName := ← record.get "short_name" Decoder.string
    category := ← record.get "category" LoanCategory.ofJson }

end LoanProduct

end ChargeBasis

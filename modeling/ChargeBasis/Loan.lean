import ChargeBasis.Calendar.Date
import ChargeBasis.Money.Basic

/-! Loans, loan products and loan transactions, as they are read from the loan store. -/

namespace ChargeBasis

/-- Identifies a loan. -/
abbrev LoanId := UInt64

/-- Identifies a loan product. -/
abbrev ProductId := UInt64

/-- Identifies a client. -/
abbrev ClientId := UInt64

/-- Whether a loan is repayable on demand or by a fixed schedule. -/
inductive LoanCategory where
  | demand
  | term
  deriving DecidableEq, Repr

/-- How the monthly figures of a loan are derived: from the balance at the end of each month, or
from the balance of every day. -/
inductive SummaryMode where
  | monthly
  | daily
  deriving DecidableEq, Repr

/-- What a transaction does to a loan. -/
inductive TransactionKind where
  | disbursement
  | repayment
  | repaymentAtDisbursement
  | waiver
  | writeOff
  | accrual
  | charge
  deriving DecidableEq, Repr

/-- Whether the transaction reduces the outstanding balance by a payment. -/
def TransactionKind.isRepayment : TransactionKind → Bool
  | .repayment | .repaymentAtDisbursement => true
  | _ => false

/-- A transaction of a loan. -/
structure LoanTransaction where
  loan : LoanId
  date : Date
  kind : TransactionKind
  amount : Money
  principalPortion : Money
  deriving DecidableEq

namespace LoanTransaction

/-- A plain repayment. -/
def repayment (loan : LoanId) (date : Date) (amount principalPortion : Money)
    : LoanTransaction :=
  { loan, date, kind := .repayment, amount, principalPortion }

/-- Whether the transaction is a payment that reduces the outstanding balance. -/
def isRepayment (t : LoanTransaction) : Bool :=
  t.kind.isRepayment

end LoanTransaction

/-- The state of a loan account when the charge is computed. -/
structure Loan where
  id : LoanId
  client : ClientId
  product : ProductId
  principalOutstanding : Money
  totalOutstanding : Money
  disbursementDate : Date
  deriving DecidableEq

/-- A loan product. -/
structure LoanProduct where
  id : ProductId
  name : String
  shortName : String
  category : LoanCategory
  deriving DecidableEq

/-- Whether loans of the product are repayable on demand. -/
def LoanProduct.isDemandLoan (product : LoanProduct) : Bool :=
  product.category == .demand

end ChargeBasis

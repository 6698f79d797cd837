import ChargeBasis.Source.Fetch

/-! A source of transactions held in memory, in which loans can be marked as unavailable. -/

namespace ChargeBasis

/-- The recorded transactions in the order of recording, and the marks, the latest first. -/
structure Ledger where
  transactions : List LoanTransaction
  unavailable : List (LoanId × String)
  deriving DecidableEq

namespace Ledger

/-- The ledger without transactions and marks. -/
def empty : Ledger := ⟨[], []⟩

instance : Inhabited Ledger := ⟨empty⟩

/-- Records a transaction behind the others. -/
def record (ledger : Ledger) (transaction : LoanTransaction) : Ledger :=
  { ledger with transactions := ledger.transactions ++ [transaction] }

/-- Records several transactions in order. -/
def recordAll (ledger : Ledger) (transactions : List LoanTransaction) : Ledger :=
  { ledger with transactions := ledger.transactions ++ transactions }

/-- From now on every request for the loan fails for this reason. -/
def markUnavailable (ledger : Ledger) (loan : LoanId) (reason : String) : Ledger :=
  { ledger with unavailable := (loan, reason) :: ledger.unavailable }

/-- The transactions recorded for a loan. -/
def transactionsOf (ledger : Ledger) (loan : LoanId) : List LoanTransaction :=
  ledger.transactions.filter fun t => t.loan == loan

/-- A recorded transaction comes last among those of its loan and is none of any other loan. -/
theorem transactionsOf_record (ledger : Ledger) (t : LoanTransaction) (loan : LoanId)
    : (ledger.record t).transactionsOf loan
      = ledger.transactionsOf loan ++ if t.loan == loan then [t] else [] := by
  simp [record, transactionsOf, List.filter_append, List.filter_cons]

/-- Of several recorded transactions those of a loan come last, in order. -/
theorem transactionsOf_recordAll (ledger : Ledger) (ts : List LoanTransaction) (loan : LoanId)
    : (ledger.recordAll ts).transactionsOf loan
      = ledger.transactionsOf loan ++ ts.filter fun t => t.loan == loan := by
  simp [recordAll, transactionsOf, List.filter_append]

/-- A mark takes no transaction away. -/
theorem transactionsOf_markUnavailable (ledger : Ledger) (marked : LoanId) (reason : String)
    (loan : LoanId)
    : (ledger.markUnavailable marked reason).transactionsOf loan = ledger.transactionsOf loan :=
  rfl

/-- The answer to a request: the loan's transactions on the days asked for, unless the loan is
marked. -/
def answer (ledger : Ledger) (request : Fetch) : Except ChargeError (List LoanTransaction) :=
  match ledger.unavailable.lookup request.loan with
  | some reason => .error (.dataAccessFailure request.loan reason)
  | none =>
    .ok ((ledger.transactionsOf request.loan).filter fun t =>
      request.first ≤ t.date && t.date ≤ request.last)

/-- The ledger as a source, whose answers do not depend on earlier requests. -/
def source (ledger : Ledger) : TransactionSource :=
  ⟨fun _ request => ledger.answer request⟩

end Ledger

end ChargeBasis

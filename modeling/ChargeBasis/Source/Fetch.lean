import ChargeBasis.Error

/-!
Reading transactions from a source outside. What a source answers may depend on all requests made
of it before, so a computation that reads carries the list of its requests, and the list is kept
also when the computation fails.
-/

namespace ChargeBasis

/-- A request for the transactions of a loan from one day to another, both included. -/
structure Fetch where
  loan : LoanId
  first : Date
  last : Date
  deriving DecidableEq

/-- The requests made so far, the earliest one first. -/
abbrev FetchLog := List Fetch

/-- A source of transactions: its answer to a request that follows others. -/
structure TransactionSource where
  answer : FetchLog → Fetch → Except ChargeError (List LoanTransaction)

/-- A computation that reads transactions and may end early. -/
abbrev Reading (α : Type) := ExceptT Fault (StateM FetchLog) α

namespace Reading

/-- Runs a computation after some requests: its outcome and all requests made by then. -/
def runAfter {α : Type} (reading : Reading α) (log : FetchLog) : Except Fault α × FetchLog :=
  StateT.run (ExceptT.run reading) log

end Reading

/-- Makes a request. It is recorded whatever the answer. -/
def TransactionSource.fetch (source : TransactionSource) (request : Fetch)
    : Reading (List LoanTransaction) := do
  let earlier ← getThe FetchLog
  set (earlier ++ [request])
  match source.answer earlier request with
  | .ok transactions => return transactions
  | .error e => throw (.failed e)

end ChargeBasis

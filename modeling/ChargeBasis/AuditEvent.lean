import ChargeBasis.Period.BillingPeriod
import ChargeBasis.Uuid

/-! The audit trail of a run. -/

namespace ChargeBasis

/-- Something that happened in a run. -/
inductive AuditEvent where
  | periodResolved (run : Uuid) (period : BillingPeriod) (year : Int32) (fromDate toDate : Date)
  | loanSummarised (run : Uuid) (loan : LoanId) (mode : SummaryMode)
    (totalOutstanding totalRepayments : Money)
  | loanSummaryReused (run : Uuid) (loan : LoanId)
  | loanSummaryFailed (run : Uuid) (loan : LoanId) (reason : String)
  | portfolioAggregated (run : Uuid) (isDemandLoan : Bool) (loanCount : Nat)
    (totalOutstanding : Money)
  deriving DecidableEq

/-- The run that an event belongs to. -/
def AuditEvent.run : AuditEvent → Uuid
  | .periodResolved run .. => run
  | .loanSummarised run .. => run
  | .loanSummaryReused run _ => run
  | .loanSummaryFailed run .. => run
  | .portfolioAggregated run .. => run

/-- The events of a run in the order in which they happened. -/
structure AuditTrail where
  events : List AuditEvent
  deriving DecidableEq

namespace AuditTrail

/-- The trail without events. -/
def empty : AuditTrail := ⟨[]⟩

instance : Inhabited AuditTrail := ⟨empty⟩

/-- Puts an event behind the others. -/
def emit (trail : AuditTrail) (event : AuditEvent) : AuditTrail :=
  ⟨trail.events ++ [event]⟩

/-- Takes all events out of the trail. -/
def take (trail : AuditTrail) : List AuditEvent × AuditTrail :=
  (trail.events, empty)

end AuditTrail

end ChargeBasis

import ChargeBasis.Period.PeriodChoice
import ChargeBasis.Summary.DailyWeighing

/-! The configuration of a charge computation. -/

namespace ChargeBasis

/-- Which mode a loan is summarised in. -/
inductive SummaryStrategy where
  | alwaysMonthly
  | alwaysDaily
  | byLoanCategory
  deriving DecidableEq, Repr

/-- The mode for a loan of a category: by category, demand loans are weighed daily. -/
def SummaryStrategy.modeFor : SummaryStrategy → LoanCategory → SummaryMode
  | .alwaysMonthly, _ => .monthly
  | .alwaysDaily, _ => .daily
  | .byLoanCategory, .demand => .daily
  | .byLoanCategory, .term => .monthly

/-- What happens when a loan cannot be summarised: the run ends, or it goes on without the
loan. -/
inductive FailurePolicy where
  | failFast
  | collectErrors
  deriving DecidableEq, Repr

/-- The configuration of a charge computation. -/
structure ChargeConfig where
  period : PeriodChoice
  strategy : SummaryStrategy := .byLoanCategory
  averaging : AveragingPolicy := .weightedSum
  failurePolicy : FailurePolicy := .failFast
  averageScale : UInt32 := 2
  deriving DecidableEq

namespace ChargeConfig

/-- The charge for the current quarter. -/
def quarterly : ChargeConfig :=
  { period := .current .quarterly }

/-- The charge for the current year. -/
def yearly : ChargeConfig :=
  { period := .current .yearly }

instance : Inhabited ChargeConfig := ⟨quarterly⟩

end ChargeConfig

end ChargeBasis

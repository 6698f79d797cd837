import ChargeBasis.Calendar.Timestamp
import ChargeBasis.Encoding.AuditEvent
import ChargeBasis.Encoding.ChargeConfig
import ChargeBasis.Encoding.Report
import ChargeBasis.Source.Ledger
import ChargeBasis.Proofs.Summary.DailyBalances
import ChargeBasis.Proofs.Summary.MonthlyBalances
import ChargeBasis.Proofs.Assessment.Outcomes
import ChargeBasis.Proofs.Assessment.Totals
import ChargeBasis.Proofs.Decimal.Quotients
import ChargeBasis.Proofs.Summary.Failures
import ChargeBasis.Proofs.Assessment.Failures
import ChargeBasis.Proofs.Assessment.Policies
import ChargeBasis.Proofs.Period.Quarters
import ChargeBasis.Proofs.Summary.Quarters
import ChargeBasis.Proofs.Money.Operations
import ChargeBasis.Proofs.Summary.Operations
import ChargeBasis.Proofs.Summary.ExactOperations
import ChargeBasis.Proofs.Summary.SafeRange
import ChargeBasis.Proofs.Assessment.Operations
import ChargeBasis.Proofs.Assessment.SafeRange
import ChargeBasis.Proofs.Assessment.Requests
import ChargeBasis.Proofs.Assessment.Trail
import ChargeBasis.Proofs.Period.Resolution
import ChargeBasis.Proofs.Assessment.Overflows
import ChargeBasis.Proofs.Summary.Influence
import ChargeBasis.Proofs.Summary.Agreement
import ChargeBasis.Proofs.Summary.Columns
import ChargeBasis.Proofs.Assessment.VisitingOrder
import ChargeBasis.Proofs.Encoding.ChargePeriods
import ChargeBasis.Proofs.Summary.CacheRuns
import ChargeBasis.Proofs.Summary.Aggregation
import ChargeBasis.Proofs.Summary.WindowWeights
import ChargeBasis.Proofs.Summary.Carrying
import ChargeBasis.Proofs.Summary.Averages
import ChargeBasis.Proofs.Source.Histories
import ChargeBasis.Proofs.Period.MonthCodes
import ChargeBasis.Proofs.Money.Places
import ChargeBasis.Proofs.Summary.SeriesLengths
import ChargeBasis.Proofs.Calendar.CompleteWalks
import ChargeBasis.Proofs.Summary.Accumulation
import ChargeBasis.Proofs.Money.AnyOrder

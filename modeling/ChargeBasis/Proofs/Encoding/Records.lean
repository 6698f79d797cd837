import ChargeBasis.Encoding.AuditEvent
import ChargeBasis.Encoding.ChargeConfig
import ChargeBasis.Encoding.Report
import ChargeBasis.Proofs.Encoding.Scalars

/-!
Reading encoded records. Every record is read back from its JSON value, its amounts without the
signs of zeros.
-/

namespace ChargeBasis

open Json (Record Field)

-----------------------------------------------------------------------------------------
-- Names
-----------------------------------------------------------------------------------------

@[simp] theorem CalculationMethod.ofJson_toJson (method : CalculationMethod)
    : ofJson method.toJson = .ok method :=
  Json.Decoder.oneOf_text (by cases method <;> rfl)

@[simp] theorem Quarter.ofJson_toJson (quarter : Quarter)
    : ofJson quarter.toJson = .ok quarter :=
  Json.Decoder.oneOf_text (by cases quarter <;> rfl)

@[simp] theorem LoanCategory.ofJson_toJson (category : LoanCategory)
    : ofJson category.toJson = .ok category :=
  Json.Decoder.oneOf_text (by cases category <;> rfl)

@[simp] theorem SummaryMode.ofJson_toJson (mode : SummaryMode)
    : ofJson mode.toJson = .ok mode :=
  Json.Decoder.oneOf_text (by cases mode <;> rfl)

@[simp] theorem TransactionKind.ofJson_toJson (kind : TransactionKind)
    : ofJson kind.toJson = .ok kind :=
  Json.Decoder.oneOf_text (by cases kind <;> rfl)

@[simp] theorem SummaryStrategy.ofJson_label (strategy : SummaryStrategy)
    : ofJson (.text strategy.label) = .ok strategy :=
  Json.Decoder.oneOf_text (by cases strategy <;> rfl)

@[simp] theorem AveragingPolicy.ofJson_label (policy : AveragingPolicy)
    : ofJson (.text policy.label) = .ok policy :=
  Json.Decoder.oneOf_text (by cases policy <;> rfl)

@[simp] theorem FailurePolicy.ofJson_label (policy : FailurePolicy)
    : ofJson (.text policy.label) = .ok policy :=
  Json.Decoder.oneOf_text (by cases policy <;> rfl)

-----------------------------------------------------------------------------------------
-- Loans, products and transactions
-----------------------------------------------------------------------------------------

/-- The same transaction, its amounts without the signs of zeros. -/
def LoanTransaction.unsigned (t : LoanTransaction) : LoanTransaction :=
  { t with amount := t.amount.unsigned, principalPortion := t.principalPortion.unsigned }

theorem LoanTransaction.ofJson_toJson (t : LoanTransaction)
    : ofJson t.toJson = .ok t.unsigned := by
  have read : Record.read fields t.toJson = .ok _ :=
    Record.read_object (by decide) (by simp [Record.Lists, fields, Field.check_of_eq_ok_iff])
  simp [ofJson, read, Except.ok_bind, unsigned]

/-- The same loan, its amounts without the signs of zeros. -/
def Loan.unsigned (loan : Loan) : Loan :=
  { loan with
    principalOutstanding := loan.principalOutstanding.unsigned
    totalOutstanding := loan.totalOutstanding.unsigned }

theorem Loan.ofJson_toJson (loan : Loan)
    : ofJson loan.toJson = .ok loan.unsigned := by
  have read : Record.read fields loan.toJson = .ok _ :=
    Record.read_object (by decide) (by simp [Record.Lists, fields, Field.check_of_eq_ok_iff])
  simp [ofJson, read, Except.ok_bind, unsigned]

theorem LoanProduct.ofJson_toJson (product : LoanProduct)
    : ofJson product.toJson = .ok product := by
  have read : Record.read fields product.toJson = .ok _ :=
    Record.read_object (by decide) (by simp [Record.Lists, fields, Field.check_of_eq_ok_iff])
  simp [ofJson, read, Except.ok_bind]

-----------------------------------------------------------------------------------------
-- Configurations
-----------------------------------------------------------------------------------------

@[simp] theorem BillingPeriod.ofJson_toJson (period : BillingPeriod)
    : ofJson period.toJson = .ok period := by
  cases period with
  | quarterly quarter =>
      simp [ofJson, toJson, Json.Decoder.variant, ofVariant, Except.map]
  | yearly => simp [ofJson, toJson, Json.Decoder.variant, ofVariant, Json.Decoder.unit]

/-- A code of any characters, and a year of any size, are read back. -/
@[simp] theorem PeriodChoice.ofJson_toJson (choice : PeriodChoice)
    : ofJson choice.toJson = .ok choice := by
  have code := Json.Decoder.nullable_ofOption Json.Decoder.string_text nofun choice.monthCode
  have year := Json.Decoder.nullable_ofOption Json.Decoder.int32_ofInt32 nofun choice.year
  have read : Record.read fields choice.toJson = .ok _ :=
    Record.read_object (by decide)
      (by simp [Record.Lists, fields, Field.check_of_eq_ok_iff, code, year])
  simp [ofJson, read, Except.ok_bind, code, year]

theorem ChargeConfig.ofJson_toJson (config : ChargeConfig)
    : ofJson config.toJson = .ok config := by
  have read : Record.read fields config.toJson = .ok _ :=
    Record.read_object (by decide) (by simp [Record.Lists, fields, Field.check_of_eq_ok_iff])
  simp [ofJson, read, Except.ok_bind]

-----------------------------------------------------------------------------------------
-- Series and reports
-----------------------------------------------------------------------------------------

/-- The same series, its amounts without the signs of zeros. -/
def BalanceSeries.unsigned (series : BalanceSeries) : BalanceSeries :=
  { series with
    outstanding := series.outstanding.map Money.unsigned
    repayments := series.repayments.map Money.unsigned }

@[simp] theorem Money.list_ofList (amounts : List Money)
    : Money.ofJson.list (.ofList Money.toJson amounts) = .ok (amounts.map Money.unsigned) :=
  Json.Decoder.list_ofList amounts fun m _ => m.ofJson_toJson

@[simp] theorem BalanceSeries.ofJson_toJson (series : BalanceSeries)
    : ofJson series.toJson = .ok series.unsigned := by
  have read : Record.read fields series.toJson = .ok _ :=
    Record.read_object (by decide) (by simp [Record.Lists, fields, Field.check_of_eq_ok_iff])
  simp [ofJson, read, Except.ok_bind, unsigned]

@[simp] theorem PeriodSection.ofJson_toJson (period : PeriodSection)
    : ofJson period.toJson = .ok period := by
  have read : Record.read fields period.toJson = .ok _ :=
    Record.read_object (by decide) (by simp [Record.Lists, fields, Field.check_of_eq_ok_iff])
  simp [ofJson, read, Except.ok_bind]

/-- The same section, its amounts without the signs of zeros. -/
def CategorySection.unsigned (category : CategorySection) : CategorySection :=
  { category with
    monthlyOutstanding := category.monthlyOutstanding.map Money.unsigned
    monthlyRepayments := category.monthlyRepayments.map Money.unsigned
    totalOutstanding := category.totalOutstanding.unsigned
    totalRepayments := category.totalRepayments.unsigned }

/-- A section is read back if the number of its loans is one that a machine word holds. -/
theorem CategorySection.ofJson_toJson {category : CategorySection}
    (fits : category.loanCount < 2 ^ 64)
    : ofJson category.toJson = .ok category.unsigned := by
  have count := Json.Decoder.count_ofNat fits
  have read : Record.read fields category.toJson = .ok _ :=
    Record.read_object (by decide)
      (by simp [Record.Lists, fields, Field.check_of_eq_ok_iff, count])
  simp [ofJson, read, Except.ok_bind, unsigned, count]

@[simp] theorem FailureEntry.ofJson_toJson (failure : FailureEntry)
    : ofJson failure.toJson = .ok failure := by
  have read : Record.read fields failure.toJson = .ok _ :=
    Record.read_object (by decide) (by simp [Record.Lists, fields, Field.check_of_eq_ok_iff])
  simp [ofJson, read, Except.ok_bind]

namespace Report

/-- The same report, its amounts without the signs of zeros. -/
def unsigned (report : Report) : Report :=
  { report with
    demandLoans := report.demandLoans.unsigned
    termLoans := report.termLoans.unsigned
    totalOutstanding := report.totalOutstanding.unsigned
    loans := report.loans.map BalanceSeries.unsigned }

/-- The numbers of loans are ones that a machine word holds. -/
def CountsFit (report : Report) : Prop :=
  report.demandLoans.loanCount < 2 ^ 64 ∧ report.termLoans.loanCount < 2 ^ 64

theorem ofJson_toJson {report : Report} (fits : report.CountsFit)
    : ofJson report.toJson = .ok report.unsigned := by
  have demand := CategorySection.ofJson_toJson fits.1
  have term := CategorySection.ofJson_toJson fits.2
  have loans := Json.Decoder.list_ofList report.loans fun series _ => series.ofJson_toJson
  have failures : FailureEntry.ofJson.list (.ofList FailureEntry.toJson report.failures)
      = .ok (report.failures.map id) :=
    Json.Decoder.list_ofList report.failures fun failure _ => failure.ofJson_toJson
  rw [List.map_id] at failures
  have read : Record.read fields report.toJson = .ok _ :=
    Record.read_object (by decide)
      (by simp [Record.Lists, fields, Field.check_of_eq_ok_iff, demand, term, loans, failures])
  simp [ofJson, read, Except.ok_bind, unsigned, demand, term, loans, failures]

end Report

-----------------------------------------------------------------------------------------
-- Events
-----------------------------------------------------------------------------------------

namespace AuditEvent

/-- The same event, its amounts without the signs of zeros. -/
def unsigned : AuditEvent → AuditEvent
  | loanSummarised run loan mode outstanding repayments =>
      loanSummarised run loan mode outstanding.unsigned repayments.unsigned
  | portfolioAggregated run isDemandLoan loanCount outstanding =>
      portfolioAggregated run isDemandLoan loanCount outstanding.unsigned
  | event => event

/-- The number of loans in an event is one that a machine word holds. -/
def CountFits : AuditEvent → Prop
  | portfolioAggregated _ _ loanCount _ => loanCount < 2 ^ 64
  | _ => True

/-- The body under the name of a kind of event is read for that kind. -/
theorem ofJson_object {name : String} (known : name ∈ names) (body : Json)
    : ofJson (.object [(name, body)]) = readBody name body := by
  simp only [ofJson, Json.Decoder.variant, if_pos known]
  cases readBody name body <;> rfl

theorem ofJson_toJson {event : AuditEvent} (fits : event.CountFits)
    : ofJson event.toJson = .ok event.unsigned := by
  cases event with
  | periodResolved run period year fromDate toDate =>
      rw [toJson, ofJson_object (by decide)]
      simp only [readBody, readPeriodResolved]
      rw [Record.read_object (by decide)
        (by simp [Record.Lists, Field.check_of_eq_ok_iff])]
      simp [Except.ok_bind, unsigned]
  | loanSummarised run loan mode outstanding repayments =>
      rw [toJson, ofJson_object (by decide)]
      simp only [readBody, readLoanSummarised]
      rw [Record.read_object (by decide)
        (by simp [Record.Lists, Field.check_of_eq_ok_iff])]
      simp [Except.ok_bind, unsigned]
  | loanSummaryReused run loan =>
      rw [toJson, ofJson_object (by decide)]
      simp only [readBody, readLoanSummaryReused]
      rw [Record.read_object (by decide)
        (by simp [Record.Lists, Field.check_of_eq_ok_iff])]
      simp [Except.ok_bind, unsigned]
  | loanSummaryFailed run loan reason =>
      rw [toJson, ofJson_object (by decide)]
      simp only [readBody, readLoanSummaryFailed]
      rw [Record.read_object (by decide)
        (by simp [Record.Lists, Field.check_of_eq_ok_iff])]
      simp [Except.ok_bind, unsigned]
  | portfolioAggregated run isDemandLoan loanCount outstanding =>
      have count := Json.Decoder.count_ofNat fits
      have body : readBody "PortfolioAggregated" = readPortfolioAggregated := rfl
      rw [toJson, ofJson_object (by decide), body]
      simp only [readPortfolioAggregated]
      rw [Record.read_object (by decide)
        (by simp [Record.Lists, Field.check_of_eq_ok_iff, count])]
      simp [Except.ok_bind, unsigned, count]

end AuditEvent

end ChargeBasis

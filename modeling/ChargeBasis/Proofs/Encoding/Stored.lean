import ChargeBasis.Proofs.Encoding.Records
import ChargeBasis.Proofs.Summary.Reconstruction

/-!
Reading stored values. Configurations, transactions, loans, products, series, events and reports
are read back from the texts that they are stored as; an amount keeps its value and its scale.
-/

namespace ChargeBasis

open Json

-----------------------------------------------------------------------------------------
-- Plain encodings
-----------------------------------------------------------------------------------------

attribute [local simp] isPlain_null isPlain_bool isPlain_text isPlain_ofNat isPlain_ofInt
  isPlain_object

theorem Date.isPlain_toJson (d : Date)
    : d.toJson.IsPlain :=
  isPlain_text d.text

theorem Money.isPlain_toJson (m : Money)
    : m.toJson.IsPlain :=
  isPlain_text m.text

theorem Uuid.isPlain_toJson (id : Uuid)
    : id.toJson.IsPlain :=
  isPlain_text id.text

theorem Json.isPlain_ofInt32 (n : Int32)
    : (ofInt32 n).IsPlain :=
  isPlain_ofInt n.toInt

attribute [local simp] Date.isPlain_toJson Money.isPlain_toJson Uuid.isPlain_toJson ofUInt64
  ofUInt32 ofInt32

theorem LoanTransaction.isPlain_toJson (t : LoanTransaction)
    : t.toJson.IsPlain := by
  simp [toJson, TransactionKind.toJson]

theorem Loan.isPlain_toJson (loan : Loan)
    : loan.toJson.IsPlain := by
  simp [toJson]

theorem LoanProduct.isPlain_toJson (product : LoanProduct)
    : product.toJson.IsPlain := by
  simp [toJson, LoanCategory.toJson]

theorem BillingPeriod.isPlain_toJson (period : BillingPeriod)
    : period.toJson.IsPlain := by
  cases period <;> simp [toJson, Quarter.toJson]

theorem PeriodChoice.isPlain_toJson (choice : PeriodChoice)
    : choice.toJson.IsPlain := by
  have code := isPlain_ofOption isPlain_text choice.monthCode
  have year : (ofOption ofInt32 choice.year).IsPlain :=
    isPlain_ofOption isPlain_ofInt32 choice.year
  simp [toJson, CalculationMethod.toJson, code, year]

theorem ChargeConfig.isPlain_toJson (config : ChargeConfig)
    : config.toJson.IsPlain := by
  simp [toJson, PeriodChoice.isPlain_toJson]

theorem BalanceSeries.isPlain_toJson (series : BalanceSeries)
    : series.toJson.IsPlain := by
  simp [toJson, SummaryMode.toJson, isPlain_ofList]

theorem PeriodSection.isPlain_toJson (period : PeriodSection)
    : period.toJson.IsPlain := by
  simp [toJson]

theorem CategorySection.isPlain_toJson (category : CategorySection)
    : category.toJson.IsPlain := by
  simp [toJson, isPlain_ofList]

theorem FailureEntry.isPlain_toJson (failure : FailureEntry)
    : failure.toJson.IsPlain := by
  simp [toJson]

theorem Report.isPlain_toJson (report : Report)
    : report.toJson.IsPlain := by
  simp [toJson, PeriodSection.isPlain_toJson, CategorySection.isPlain_toJson, isPlain_ofList,
    BalanceSeries.isPlain_toJson, FailureEntry.isPlain_toJson]

theorem AuditEvent.isPlain_toJson (event : AuditEvent)
    : event.toJson.IsPlain := by
  cases event <;> simp [toJson, SummaryMode.toJson, BillingPeriod.isPlain_toJson]

-----------------------------------------------------------------------------------------
-- Stored values
-----------------------------------------------------------------------------------------

theorem ChargeConfig.parse_text (config : ChargeConfig)
    : parse config.text = .ok config := by
  have read := (ReadsBack.of_isPlain config.isPlain_toJson config.ofJson_toJson).2
  rw [parse, text, read]
  rfl

/-- Only a zero with a sign is read back without it. -/
theorem Money.unsigned_eq_self_or (m : Money)
    : m.unsigned = m ∨ m.isZero = true ∧ m.amount.negative = true := by
  cases zero : m.isZero with
  | false => exact .inl (by rw [unsigned, Decimal.unsignZero_of_isZero zero])
  | true =>
      cases sign : m.amount.negative with
      | true => exact .inr ⟨rfl, rfl⟩
      | false =>
          have same : m.amount.isNegative = m.amount.negative := by
            rw [Decimal.isNegative, sign, Bool.false_and]
          left
          rw [unsigned, Decimal.unsignZero, same]

/-- A configuration is read back from its text. Transactions, loans, products, series, events and
reports are read back from either text that encodes them, all amounts with the value and the scale
they have: at most the sign of a zero is lost. The numbers of loans in events and reports are ones
that a machine word holds.
-/
theorem stored_values_read_back
    : (∀ config : ChargeConfig, ChargeConfig.parse config.text = .ok config)
      ∧ (∀ t : LoanTransaction,
        ReadsBack LoanTransaction.toJson LoanTransaction.ofJson t t.unsigned)
      ∧ (∀ loan : Loan, ReadsBack Loan.toJson Loan.ofJson loan loan.unsigned)
      ∧ (∀ product : LoanProduct,
        ReadsBack LoanProduct.toJson LoanProduct.ofJson product product)
      ∧ (∀ series : BalanceSeries,
        ReadsBack BalanceSeries.toJson BalanceSeries.ofJson series series.unsigned)
      ∧ (∀ event : AuditEvent, event.CountFits
        → ReadsBack AuditEvent.toJson AuditEvent.ofJson event event.unsigned)
      ∧ (∀ report : Report, report.CountsFit
        → ReadsBack Report.toJson Report.ofJson report report.unsigned)
      ∧ ∀ m : Money,
        m.unsigned.toRat = m.toRat
        ∧ m.unsigned.amount.scale = m.amount.scale
        ∧ (m.unsigned = m ∨ m.isZero = true ∧ m.amount.negative = true) := by
  refine ⟨ChargeConfig.parse_text, fun t => ?_, fun loan => ?_, fun product => ?_,
    fun series => ?_, fun event fits => ?_, fun report fits => ?_, fun m => ?_⟩
  · exact .of_isPlain t.isPlain_toJson t.ofJson_toJson
  · exact .of_isPlain loan.isPlain_toJson loan.ofJson_toJson
  · exact .of_isPlain product.isPlain_toJson product.ofJson_toJson
  · exact .of_isPlain series.isPlain_toJson series.ofJson_toJson
  · exact .of_isPlain event.isPlain_toJson (AuditEvent.ofJson_toJson fits)
  · exact .of_isPlain report.isPlain_toJson (Report.ofJson_toJson fits)
  · exact ⟨m.toRat_unsigned.1, m.toRat_unsigned.2, m.unsigned_eq_self_or⟩

namespace Sample

/-- A zero with two places, with or without the sign of a number that was cut down to it. -/
def nothing (negative : Bool) : Money :=
  ⟨negative, 0, 2, Decimal.zero.magnitude_lt, Nat.le_of_ble_eq_true rfl⟩

/-- A sum over three loans. -/
def aggregated (total : Money) : AuditEvent :=
  .portfolioAggregated .nil true 3 total

/-- The report on one loan and one failure, whose wording quotes a code. -/
def report (total : Money) : Report where
  run := .nil
  period := .of quarter
  demandLoans := ⟨1, [total], [total], total, total⟩
  termLoans := ⟨0, [], [], .zero, .zero⟩
  totalOutstanding := total
  loans := [⟨7, true, loan.disbursementDate, .daily, [total], [total]⟩]
  failures := [⟨9, "invalid period code: \"Q\\1\"\n"⟩]

end Sample

theorem stored_values_read_back_sample
    : (Sample.aggregated (Sample.nothing true)).CountFits
      ∧ (Sample.report (Sample.nothing true)).CountsFit
      ∧ ReadsBack AuditEvent.toJson AuditEvent.ofJson (Sample.aggregated (Sample.nothing true))
        (Sample.aggregated (Sample.nothing false))
      ∧ ReadsBack Report.toJson Report.ofJson (Sample.report (Sample.nothing true))
        (Sample.report (Sample.nothing false)) := by
  have event : (Sample.aggregated (Sample.nothing true)).CountFits := by
    simp [Sample.aggregated, AuditEvent.CountFits]
  have report : (Sample.report (Sample.nothing true)).CountsFit := by
    simp [Sample.report, Report.CountsFit]
  obtain ⟨-, -, -, -, -, events, reports, -⟩ := stored_values_read_back
  exact ⟨event, report, events _ event, reports _ report⟩

end ChargeBasis

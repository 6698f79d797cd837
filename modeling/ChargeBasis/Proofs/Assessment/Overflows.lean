import ChargeBasis.Proofs.Assessment.Failures
import ChargeBasis.Proofs.Assessment.Operations

/-!
Overflows of a run that collects failures. A loan that cannot be summarised for any other reason is
noted and the run goes on; an overflow is no failure of a loan but ends the whole run, wherever it
comes about.
-/

namespace ChargeBasis

section Records

variable {config : ChargeConfig} {portfolio : Portfolio} {period : ChargePeriod}
  {log after : FetchLog} {loans : List Loan} {verdicts : List Verdict} {progress : Progress}

/-- Every first occurrence has a series or a failure with a cause. -/
theorem Progress.Records.accounted
    (records : progress.Records config portfolio period log loans verdicts after) {loan : Loan}
    (first : loan ∈ firstOccurrences loans)
    : loan.id ∈ progress.cache.summaries.map (·.loan)
      ∨ ∃ error,
          ⟨loan.id, error⟩ ∈ progress.failures
          ∧ LoanErrorCause portfolio period log after loan error := by
  rcases records.mem_firstOccurrences_iff_verdict.mp first with ⟨error | series, verdict⟩
  · obtain ⟨_, _, begun, ended, build⟩ := records.builds.exists_build verdict
    refine .inr ⟨error, ?_, (ChargeConfig.errorCause_of_buildAlone build).within begun ended⟩
    rw [records.failures]
    exact Verdict.mem_failed.mpr ⟨loan, rfl, verdict⟩
  · have owner := records.builds.loan_eq (Verdict.mem_built.mpr verdict)
    exact .inl (List.mem_map.mpr ⟨series, records.mem_summaries.mpr ⟨loan, verdict⟩, owner⟩)

/-- With answers that do not depend on earlier requests, no loan that is recorded overflows on its
own. -/
theorem Progress.Records.outcome_ne_overflow
    (records : progress.Records config portfolio period log loans verdicts after)
    (memoryless : portfolio.source.Memoryless) {loan : Loan}
    (first : loan ∈ firstOccurrences loans) (kind : Overflow)
    : config.outcome portfolio period loan ≠ .error (.overflowed kind) := by
  obtain ⟨outcome, verdict⟩ := records.mem_firstOccurrences_iff_verdict.mp first
  rw [records.builds.outcome_eq memoryless _ verdict]
  cases outcome <;> nofun

end Records

namespace Sample

/-- The loan, and another one whose principal is the largest amount there is. -/
def oversized : Portfolio :=
  { portfolio with
    loans :=
      [loan,
        { loan with
          id := 8
          principalOutstanding := ⟨⟨false, Decimal.limit - 1, 0, by decide, Nat.zero_le _⟩⟩ }] }

end Sample

namespace ChargeConfig

variable {config : ChargeConfig} {portfolio : Portfolio} {period : ChargePeriod}
  {log : FetchLog}

/-- When failures are collected, a run over a period that is found never ends with an error of a
loan: it has a result, in which every first occurrence is summarised or noted with its cause, or it
ends with the overflow of one of its operations. With answers that do not depend on earlier requests
the second is what happens as soon as a single loan overflows on its own, whatever the others are.
-/
theorem assess_collects_unless_overflow (policy : config.failurePolicy = .collectErrors)
    (resolved : config.period.resolve portfolio.today = .ok period)
    : ((∃ assessment after,
          (config.assess portfolio).runAfter log = (.ok assessment, after)
          ∧ ∀ loan ∈ firstOccurrences portfolio.loans,
              loan.id ∈ assessment.summaries.map (·.loan)
              ∨ ∃ error,
                  ⟨loan.id, error⟩ ∈ assessment.failures
                  ∧ LoanErrorCause portfolio period log after loan error)
        ∨ ∃ kind after,
            (config.assess portfolio).runAfter log = (.error (.overflowed kind), after)
            ∧ ∃ operation ∈ config.operations portfolio log, operation.result = .error kind)
      ∧ (portfolio.source.Memoryless
        → ∀ loan ∈ firstOccurrences portfolio.loans,
            ∀ kind,
              config.outcome portfolio period loan = .error (.overflowed kind)
              → ∃ other after,
                  (config.assess portfolio).runAfter log
                  = (.error (.overflowed other), after)) := by
  rcases run : (config.assess portfolio).runAfter log with ⟨(error | kind) | assessment, after⟩
  · -- the run would have to have no period or to end with its first failure
    rcases errorCause_of_assess run with unresolved | ⟨failFast, _⟩
    · cases resolved.symm.trans unresolved
    · cases policy.symm.trans failFast
  · have explained := explain_operationsIn id config portfolio log kind (congrArg Prod.fst run)
    exact ⟨.inr ⟨kind, after, rfl, explained⟩, fun _ _ _ _ _ => ⟨kind, after, rfl⟩⟩
  · obtain ⟨period, verdicts, progress, found, records, concluded⟩ := exists_records run
    cases resolved.symm.trans found
    have concludes := concludes_of_concludeIn concluded
    constructor
    · refine .inl ⟨assessment, after, rfl, ?_⟩
      intro loan first
      rw [concludes.summaries, concludes.failures]
      exact records.accounted first
    · intro memoryless loan first kind overflow
      exact absurd overflow (records.outcome_ne_overflow memoryless first kind)

/-- The first loan of the sample has a series on its own and the second one overflows, which leaves
neither a result nor a failure. -/
theorem assess_collects_unless_overflow_sample
    : Sample.collecting.failurePolicy = .collectErrors
      ∧ Sample.collecting.period.resolve Sample.oversized.today = .ok Sample.quarter
      ∧ Sample.oversized.source.Memoryless
      ∧ (Sample.oversized.loans.map fun loan =>
          (Sample.collecting.outcome Sample.oversized Sample.quarter loan).toOption.isSome)
        = [true, false]
      ∧ (∃ kind after,
          (Sample.collecting.assess Sample.oversized).runAfter []
            = (.error (.overflowed kind), after))
      ∧ ∃ operation ∈ Sample.collecting.operations Sample.oversized [],
          operation.result = .error .multiplication := by
  have resolved
      : Sample.collecting.period.resolve Sample.oversized.today = .ok Sample.quarter := by
    decide +kernel
  have memoryless : Sample.oversized.source.Memoryless := Sample.ledger.memoryless_source
  have outcomes
      : (Sample.oversized.loans.map fun loan =>
          (Sample.collecting.outcome Sample.oversized Sample.quarter loan).toOption.isSome)
        = [true, false] := by
    decide +kernel
  obtain ⟨ends, whenever⟩ :=
    @assess_collects_unless_overflow Sample.collecting Sample.oversized Sample.quarter [] rfl
      resolved
  obtain ⟨kind, after, run⟩ :=
    whenever memoryless Sample.oversized.loans[1] (by decide +kernel) .multiplication
      (by decide +kernel)
  refine ⟨rfl, resolved, memoryless, outcomes, ⟨kind, after, run⟩, ?_⟩
  have multiplied
      : ((Sample.collecting.assess Sample.oversized).runAfter []).1
        = .error (.overflowed .multiplication) := by
    decide +kernel
  rcases ends with ⟨_, _, result, _⟩ | ⟨other, _, overflow, explained⟩
  · cases run.symm.trans result
  · rw [overflow] at multiplied
    cases multiplied
    exact explained

/-- Collecting failures does not keep a run from ending without a result: with one loan that is too
large to be weighed there is none, although the period is found.
-/
theorem not_forall_collecting_has_result
    : ¬ ∀ (config : ChargeConfig) (portfolio : Portfolio) (period : ChargePeriod) (log : FetchLog),
          config.failurePolicy = .collectErrors
          → config.period.resolve portfolio.today = .ok period
          → ∃ assessment after,
              (config.assess portfolio).runAfter log = (.ok assessment, after) := by
  intro always
  obtain ⟨assessment, after, run⟩ :=
    always Sample.collecting Sample.oversized Sample.quarter [] rfl (by decide +kernel)
  have overflow
      : ((Sample.collecting.assess Sample.oversized).runAfter []).1
        = .error (.overflowed .multiplication) := by
    decide +kernel
  rw [run] at overflow
  cases overflow

end ChargeConfig

end ChargeBasis

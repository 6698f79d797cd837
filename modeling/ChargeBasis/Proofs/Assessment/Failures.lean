import ChargeBasis.Proofs.Assessment.Outcomes

/-!
The failures of a run. A run fails because its period cannot be found or, if the first failure is to
end it, because of one loan; and a loan fails only because its product is not listed or because the
source answered one of the requests for it with an error, which is handed on unchanged.
-/

namespace ChargeBasis

/-- Why a loan has an error in a run, which started after some requests and ended after others: its
product is not listed, or the error is the answer to a request that the run made for a month of the
loan.
-/
inductive LoanErrorCause (portfolio : Portfolio) (period : ChargePeriod) (log after : FetchLog)
    (loan : Loan)
    : ChargeError → Prop
  | unknownProduct (unlisted : ∀ product ∈ portfolio.products, product.id ≠ loan.product)
    : LoanErrorCause portfolio period log after loan (.unknownProduct loan.id loan.product)
  | unreadable {window : MonthWindow} {earlier : FetchLog} {error : ChargeError}
    (member : window ∈ period.windows) (begun : log <+: earlier)
    (made : earlier ++ [loan.fetchIn window] <+: after)
    (answer : portfolio.source.answer earlier (loan.fetchIn window) = .error error)
    : LoanErrorCause portfolio period log after loan error

section Causes

variable {config : ChargeConfig} {portfolio : Portfolio} {period : ChargePeriod}
  {log start between after final : FetchLog} {loan : Loan} {error : ChargeError}

/-- A cause within a part of a run is one in the whole run. -/
theorem LoanErrorCause.within (cause : LoanErrorCause portfolio period between final loan error)
    (begun : log <+: between) (ended : final <+: after)
    : LoanErrorCause portfolio period log after loan error := by
  cases cause with
  | unknownProduct unlisted => exact .unknownProduct unlisted
  | unreadable member started made answer =>
      exact .unreadable member (begun.trans started) (made.trans ended) answer

theorem findProduct?_eq_none_iff {products : List LoanProduct} {id : ProductId}
    : findProduct? products id = none ↔ ∀ product ∈ products, product.id ≠ id := by
  simp [findProduct?]

/-- A loan that has no series on its own has a cause for its error. -/
theorem ChargeConfig.errorCause_of_buildAlone
    (h
      : (config.buildAlone portfolio period loan).runAfter log
        = (.error (.failed error), after))
    : LoanErrorCause portfolio period log after loan error := by
  unfold buildAlone at h
  split at h
  · obtain ⟨window, member, earlier, begun, rfl, answer⟩ := SummaryBuilder.build_failed h
    exact .unreadable member begun (List.prefix_refl _) answer
  · next missing =>
    cases h
    exact .unknownProduct (findProduct?_eq_none_iff.mp missing)

end Causes

section Records

variable {config : ChargeConfig} {portfolio : Portfolio} {period : ChargePeriod}
  {log between after : FetchLog} {loans : List Loan} {verdicts : List Verdict}
  {progress : Progress}

/-- Every failure that is noted is that of a first occurrence and has a cause. -/
theorem Progress.Records.errorCause_of_failure
    (records : progress.Records config portfolio period log loans verdicts after)
    {failure : LoanFailure} (noted : failure ∈ progress.failures)
    : ∃ loan ∈ firstOccurrences loans,
        loan.id = failure.loan
        ∧ LoanErrorCause portfolio period log after loan failure.error := by
  rw [records.failures] at noted
  obtain ⟨loan, owner, verdict⟩ := Verdict.mem_failed.mp noted
  obtain ⟨_, _, begun, ended, build⟩ := records.builds.exists_build verdict
  exact ⟨loan, records.mem_firstOccurrences_iff_verdict.mpr ⟨_, verdict⟩, owner,
    (ChargeConfig.errorCause_of_buildAlone build).within begun ended⟩

/-- Taking up further loans fails only if the first failure is to end the run, and because of a
loan whose identifier is new.
-/
theorem Progress.Records.errorCause_of_foldlM
    (records : progress.Records config portfolio period log loans verdicts between)
    {further : List Loan} {error : ChargeError}
    (h
      : (further.foldlM (config.assessLoan portfolio period) progress).runAfter between
        = (.error (.failed error), after))
    : config.failurePolicy = .failFast
      ∧ ∃ loan ∈ firstOccurrences (loans ++ further),
          LoanErrorCause portfolio period log after loan error := by
  obtain ⟨front, loan, back, reached, middle, rfl, walked, failed⟩ :=
    Reading.exists_fault_of_foldlM h
  obtain ⟨_, reachedRecords⟩ := records.foldlM walked
  obtain ⟨policy, unknown, fresh, build⟩ := ChargeConfig.assessLoan_failed failed
  have new := reachedRecords.not_mem_ids unknown fresh
  refine ⟨policy, loan, mem_firstOccurrences_iff.mpr ⟨_, back, by simp, new⟩, ?_⟩
  exact (ChargeConfig.errorCause_of_buildAlone build).within reachedRecords.builds.log_prefix
    (List.prefix_refl after)

end Records

namespace ChargeConfig

variable {config : ChargeConfig} {portfolio : Portfolio} {log : FetchLog}

/-- A run that ends with an error has no period or, if the first failure is to end it, a loan with
that error. -/
theorem errorCause_of_assess {error : ChargeError} {after : FetchLog}
    (h : (config.assess portfolio).runAfter log = (.error (.failed error), after))
    : config.period.resolve portfolio.today = .error error
      ∨ config.failurePolicy = .failFast
        ∧ ∃ period,
            config.period.resolve portfolio.today = .ok period
            ∧ ∃ loan ∈ firstOccurrences portfolio.loans,
                LoanErrorCause portfolio period log after loan error := by
  rcases resolved : config.period.resolve portfolio.today with unresolved | period
  · rw [assess, runAfter_assessIn_of_unresolved id resolved] at h
    cases h
    exact .inl rfl
  · rw [assess, runAfter_assessIn_of_resolved id resolved] at h
    have start := config.records_begin portfolio period log
    rcases walk
      : (portfolio.loans.foldlM (config.assessLoan portfolio period)
          (begin portfolio.run period)).runAfter log
      with ⟨fault | progress, final⟩
    · rw [walk] at h
      cases h
      obtain ⟨policy, caused⟩ := start.errorCause_of_foldlM walk
      exact .inr ⟨policy, period, rfl, caused⟩
    · -- once all loans are taken up, only an overflow keeps a run from its result
      rw [walk] at h
      obtain ⟨_, records⟩ := start.foldlM walk
      exact absurd (Prod.mk.inj h).1 (concludeIn_ne_failed (.refl _) records.lengths error)

/-- Whatever the source answers, apart from overflows a run ends with an error only because its
period cannot be found, for an unknown month or an unreadable boundary, or, if the first failure is
to end it, because of the first occurrence of one loan; and such an error, like every one that is
noted among the failures, is that of an unlisted product or an answer of the source to a request
for the loan. No other error of a loan comes about: no series has a wrong length, every average
exists, a day follows every month and periods are in order.
-/
theorem assess_failures_documented (config : ChargeConfig) (portfolio : Portfolio)
    (log : FetchLog)
    : (∀ error after,
        (config.assess portfolio).runAfter log = (.error (.failed error), after)
        → config.period.resolve portfolio.today = .error error
            ∧ ((∃ code, error = .invalidPeriodCode code)
              ∨ ∃ text fault, error = .invalidDate (.unresolvedBoundary text fault))
          ∨ config.failurePolicy = .failFast
            ∧ ∃ period,
                config.period.resolve portfolio.today = .ok period
                ∧ ∃ loan ∈ firstOccurrences portfolio.loans,
                    LoanErrorCause portfolio period log after loan error)
      ∧ ∀ assessment after,
          (config.assess portfolio).runAfter log = (.ok assessment, after)
          → ∀ failure ∈ assessment.failures,
              ∃ loan ∈ firstOccurrences portfolio.loans,
                loan.id = failure.loan
                ∧ LoanErrorCause portfolio assessment.period log after loan failure.error := by
  constructor
  · intro error after run
    rcases errorCause_of_assess run with unresolved | caused
    · exact .inl ⟨unresolved, PeriodChoice.resolve_failed unresolved⟩
    · exact .inr caused
  · intro assessment after run failure noted
    obtain ⟨period, verdicts, progress, _, records, concluded⟩ := exists_records run
    have concludes := concludes_of_concludeIn concluded
    rw [concludes.failures] at noted
    rw [concludes.period]
    exact records.errorCause_of_failure noted

/-- The sample portfolio has a loan that cannot be read, which ends a run that is to end with the
first failure, and one of an unlisted product besides, which is noted when failures are collected.
-/
theorem assess_failures_documented_sample
    : (∃ after,
        (quarterly.assess Sample.portfolio).runAfter []
          = (.error (.failed (.dataAccessFailure 9 "closed")), after)
        ∧ ∃ period,
            quarterly.period.resolve Sample.portfolio.today = .ok period
            ∧ ∃ loan ∈ firstOccurrences Sample.portfolio.loans,
                LoanErrorCause Sample.portfolio period [] after loan
                  (.dataAccessFailure 9 "closed"))
      ∧ ∃ assessment after,
          (Sample.collecting.assess Sample.portfolio).runAfter [] = (.ok assessment, after)
          ∧ ⟨6, .unknownProduct 6 3⟩ ∈ assessment.failures
          ∧ ∃ loan ∈ firstOccurrences Sample.portfolio.loans,
              loan.id = 6
              ∧ LoanErrorCause Sample.portfolio assessment.period [] after loan
                  (.unknownProduct 6 3) := by
  constructor
  · have failed
        : ((quarterly.assess Sample.portfolio).runAfter []).1
          = .error (.failed (.dataAccessFailure 9 "closed")) := by
      decide +kernel
    have resolved
        : quarterly.period.resolve Sample.portfolio.today
          ≠ .error (.dataAccessFailure 9 "closed") := by
      decide +kernel
    rcases run : (quarterly.assess Sample.portfolio).runAfter [] with ⟨outcome, after⟩
    rw [run] at failed
    subst failed
    refine ⟨after, rfl, ?_⟩
    rcases (assess_failures_documented quarterly Sample.portfolio []).1 _ _ run
      with ⟨unresolved, _⟩ | ⟨_, caused⟩
    · exact absurd unresolved resolved
    · exact caused
  · have noted
        : ((Sample.collecting.assess Sample.portfolio).runAfter []).1.toOption.any
            (fun assessment => ⟨6, .unknownProduct 6 3⟩ ∈ assessment.failures)
          = true := by
      decide +kernel
    rcases run : (Sample.collecting.assess Sample.portfolio).runAfter []
      with ⟨fault | assessment, after⟩
    · rw [run] at noted
      cases noted
    · simp only [run, Except.toOption, Option.any_some, decide_eq_true_eq] at noted
      exact ⟨assessment, after, rfl, noted,
        (assess_failures_documented Sample.collecting Sample.portfolio []).2 _ _ run _ noted⟩

end ChargeConfig

end ChargeBasis

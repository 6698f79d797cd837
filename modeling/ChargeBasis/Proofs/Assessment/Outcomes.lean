import ChargeBasis.Proofs.Assessment.Conclusion

/-!
A run that collects failures is nothing but its loans built one by one. Every identifier has one
outcome, that of its first occurrence on its own, and the result lists them all, in whatever order
the series are visited for the sums.
-/

namespace ChargeBasis

namespace Verdict

theorem length_built_add_failed (verdicts : List Verdict)
    : (built verdicts).length + (failed verdicts).length = verdicts.length := by
  induction verdicts with
  | nil => rfl
  | cons verdict rest ih =>
      rcases verdict with ⟨loan, error | series⟩
      · change (built rest).length + ((failed rest).length + 1) = rest.length + 1
        omega
      · change (built rest).length + 1 + (failed rest).length = rest.length + 1
        omega

theorem ids_failed_sublist (verdicts : List Verdict)
    : ((failed verdicts).map (·.loan)).Sublist (verdicts.map (·.1.id)) := by
  induction verdicts with
  | nil => exact .slnil
  | cons verdict rest ih =>
      rcases verdict with ⟨loan, error | series⟩
      · exact ih.cons_cons loan.id
      · exact ih.cons loan.id

/-- With one verdict for an identifier a loan is not both summarised and among the failures. -/
theorem not_both {verdicts : List Verdict} (unique : (verdicts.map (·.1.id)).Nodup)
    {loan other : Loan} {series : BalanceSeries} {error : ChargeError}
    (built : (loan, .ok series) ∈ verdicts) (failed : (other, .error error) ∈ verdicts)
    : loan.id ≠ other.id := by
  intro same
  have one := List.inj_on_of_nodup_map unique built failed same
  cases (Prod.mk.inj one).2

/-- The failures are noted in the order of the loans, each with the error of its loan. -/
theorem failed_eq_filterMap {verdicts : List Verdict}
    {outcome : Loan → Except Fault BalanceSeries}
    (same : ∀ verdict ∈ verdicts, outcome verdict.1 = verdict.2.mapError .failed)
    : failed verdicts
      = (verdicts.map (·.1)).filterMap fun loan =>
          match outcome loan with
          | .error (.failed error) => some ⟨loan.id, error⟩
          | _ => none := by
  rw [List.filterMap_map]
  apply List.filterMap_congr
  intro verdict member
  obtain ⟨loan, result⟩ := verdict
  simp only [Function.comp_apply, same _ member]
  cases result <;> rfl

end Verdict

section Records

variable {config : ChargeConfig} {portfolio : Portfolio} {period : ChargePeriod}
  {log after : FetchLog} {loans : List Loan} {verdicts : List Verdict} {progress : Progress}
  {loan : Loan}

/-- A loan occurs first exactly if there is a verdict on it. -/
theorem Progress.Records.mem_firstOccurrences_iff_verdict
    (records : progress.Records config portfolio period log loans verdicts after)
    : loan ∈ firstOccurrences loans ↔ ∃ outcome, (loan, outcome) ∈ verdicts := by
  rw [← records.decided, List.mem_map]
  constructor
  · intro listed
    obtain ⟨⟨_, outcome⟩, member, rfl⟩ := listed
    exact ⟨outcome, member⟩
  · intro decided
    obtain ⟨outcome, member⟩ := decided
    exact ⟨_, member, rfl⟩

/-- A loan with a series is not among the failures. -/
theorem Progress.Records.not_mem_failures
    (records : progress.Records config portfolio period log loans verdicts after)
    {series : BalanceSeries} (verdict : (loan, .ok series) ∈ verdicts)
    : loan.id ∉ progress.failures.map (·.loan) := by
  rw [records.failures, List.mem_map]
  intro listed
  obtain ⟨failure, noted, same⟩ := listed
  obtain ⟨other, sameId, failed⟩ := Verdict.mem_failed.mp noted
  exact Verdict.not_both records.nodup_ids verdict failed (same.symm.trans sameId.symm)

/-- A loan with an error has no series. -/
theorem Progress.Records.not_mem_summaries
    (records : progress.Records config portfolio period log loans verdicts after)
    {error : ChargeError} (verdict : (loan, .error error) ∈ verdicts)
    : loan.id ∉ progress.cache.summaries.map (·.loan) := by
  rw [List.mem_map]
  intro listed
  obtain ⟨series, kept, same⟩ := listed
  obtain ⟨other, built⟩ := records.mem_summaries.mp kept
  rw [records.builds.loan_eq (Verdict.mem_built.mpr built)] at same
  exact Verdict.not_both records.nodup_ids built verdict same

end Records

namespace ChargeConfig

variable {config : ChargeConfig} {portfolio : Portfolio} {period : ChargePeriod}
  {log : FetchLog} {order : List BalanceSeries → List BalanceSeries}

/-- What becomes of a loan on its own, as if no request had been made: the series that is built in
the mode of its product, of which the last one listed counts, and with the averages that are asked
for; or the fault that there is instead.
-/
def outcome (config : ChargeConfig) (portfolio : Portfolio) (period : ChargePeriod) (loan : Loan)
    : Except Fault BalanceSeries :=
  match (portfolio.products.filter fun product => product.id == loan.product).getLast? with
  | some product =>
    let builder : SummaryBuilder :=
      ⟨period, portfolio.source, config.averaging, config.averageScale⟩
    ((builder.build loan product (config.strategy.modeFor product.category)).runAfter []).1
  | none => .error (.failed (.unknownProduct loan.id loan.product))

theorem findProduct?_eq_getLast? (products : List LoanProduct) (id : ProductId)
    : findProduct? products id = (products.filter fun product => product.id == id).getLast? := by
  rw [findProduct?, ← List.head?_filter, List.filter_reverse, List.head?_reverse]

/-- With answers that do not depend on earlier requests a loan that is built on its own has its
outcome at any time. -/
theorem outcome_eq (memoryless : portfolio.source.Memoryless) (loan : Loan)
    : ((config.buildAlone portfolio period loan).runAfter log).1
      = config.outcome portfolio period loan := by
  rw [buildAlone_memoryless memoryless [], buildAlone, outcome, ← findProduct?_eq_getLast?]
  rcases findProduct? portfolio.products loan.product with _ | product <;> rfl

/-- With answers that do not depend on earlier requests the verdicts are the outcomes. -/
theorem BuildsInOrder.outcome_eq {verdicts : List Verdict} {after : FetchLog}
    (builds : config.BuildsInOrder portfolio period log verdicts after)
    (memoryless : portfolio.source.Memoryless)
    : ∀ verdict ∈ verdicts,
        config.outcome portfolio period verdict.1 = verdict.2.mapError .failed := by
  intro verdict member
  obtain ⟨_, _, _, _, build⟩ := builds.exists_build member
  rw [← ChargeConfig.outcome_eq memoryless, build]

/-- When failures are collected, a run over a period that is found has a result unless it overflows.
-/
theorem exists_assessment (policy : config.failurePolicy = .collectErrors)
    (resolved : config.period.resolve portfolio.today = .ok period)
    (visits : ∀ summaries, (order summaries).Perm summaries)
    (fits
      : ∀ kind, ((assessIn order config portfolio).runAfter log).1 ≠ .error (.overflowed kind))
    : ∃ assessment after,
        (assessIn order config portfolio).runAfter log = (.ok assessment, after) := by
  rcases run : (assessIn order config portfolio).runAfter log
    with ⟨(error | kind) | assessment, after⟩
  · exfalso
    rw [runAfter_assessIn_of_resolved order resolved] at run
    -- neither taking up the loans nor summing up has an error other than an overflow
    have taken := foldlM_assessLoan_ne_failed policy portfolio period portfolio.loans
      (begin portfolio.run period) log error
    rcases walk
      : (portfolio.loans.foldlM (config.assessLoan portfolio period)
          (begin portfolio.run period)).runAfter log
      with ⟨fault | progress, final⟩
    · rw [walk] at run taken
      cases run
      exact taken rfl
    · rw [walk] at run
      obtain ⟨verdicts, records⟩ := (config.records_begin portfolio period log).foldlM walk
      exact concludeIn_ne_failed (visits _) records.lengths error (Prod.mk.inj run).1
  · rw [run] at fits
    exact absurd rfl (fits kind)
  · exact ⟨assessment, after, rfl⟩

/-- When failures are collected and answers do not depend on earlier requests, a run has the
outcomes of its loans one by one as its result. The first occurrence of every identifier is either
among the series, with the very one it has on its own, or among the failures, with its error;
nothing else is listed and nothing twice, the series in the order of loans and the failures in the
order in which the loans come; and the loans that are counted are the series by category, so that
they and the failures are as many as the distinct identifiers. The series may be visited in any
order for the sums.
-/
theorem assessIn_collects (policy : config.failurePolicy = .collectErrors)
    (memoryless : portfolio.source.Memoryless)
    (resolved : config.period.resolve portfolio.today = .ok period)
    (visits : ∀ summaries, (order summaries).Perm summaries)
    (fits
      : ∀ kind, ((assessIn order config portfolio).runAfter log).1 ≠ .error (.overflowed kind))
    : ∃ assessment after,
        (assessIn order config portfolio).runAfter log = (.ok assessment, after)
        ∧ (∀ loan ∈ firstOccurrences portfolio.loans,
            (∃ series,
              config.outcome portfolio period loan = .ok series
              ∧ series.loan = loan.id
              ∧ series ∈ assessment.summaries
              ∧ loan.id ∉ assessment.failures.map (·.loan))
            ∨ ∃ error,
                config.outcome portfolio period loan = .error (.failed error)
                ∧ ⟨loan.id, error⟩ ∈ assessment.failures
                ∧ loan.id ∉ assessment.summaries.map (·.loan))
        ∧ (∀ series ∈ assessment.summaries,
            ∃ loan ∈ firstOccurrences portfolio.loans,
              config.outcome portfolio period loan = .ok series)
        ∧ (assessment.summaries.Pairwise fun a b => a.loan < b.loan)
        ∧ assessment.failures
          = (firstOccurrences portfolio.loans).filterMap (fun loan =>
              match config.outcome portfolio period loan with
              | .error (.failed error) => some ⟨loan.id, error⟩
              | _ => none)
        ∧ (assessment.failures.map (·.loan)).Nodup
        ∧ assessment.demandLoanCount
          = (assessment.summaries.filter fun series => series.isDemandLoan).length
        ∧ assessment.termLoanCount
          = (assessment.summaries.filter fun series => !series.isDemandLoan).length
        ∧ assessment.totalLoans + assessment.failures.length
          = (portfolio.loans.map (·.id)).toFinset.card := by
  obtain ⟨assessment, after, run⟩ := exists_assessment policy resolved visits fits
  obtain ⟨period, verdicts, progress, found, records, concluded⟩ := exists_records run
  cases resolved.symm.trans found
  have concludes := concludes_of_concludeIn concluded
  have outcomes := records.builds.outcome_eq memoryless
  refine ⟨assessment, after, run, ?_, ?_, ?_, ?_, ?_, ?_, ?_, ?_⟩
  · intro loan first
    rw [concludes.summaries, concludes.failures]
    rcases records.mem_firstOccurrences_iff_verdict.mp first with ⟨error | series, verdict⟩
    · refine .inr ⟨error, outcomes _ verdict, ?_, records.not_mem_summaries verdict⟩
      rw [records.failures]
      exact Verdict.mem_failed.mpr ⟨loan, rfl, verdict⟩
    · have owner := records.builds.loan_eq (Verdict.mem_built.mpr verdict)
      exact .inl ⟨series, outcomes _ verdict, owner, records.mem_summaries.mpr ⟨loan, verdict⟩,
        records.not_mem_failures verdict⟩
  · intro series kept
    rw [concludes.summaries] at kept
    obtain ⟨loan, verdict⟩ := records.mem_summaries.mp kept
    exact ⟨loan, records.mem_firstOccurrences_iff_verdict.mpr ⟨_, verdict⟩, outcomes _ verdict⟩
  · rw [concludes.summaries]
    exact records.ascending
  · rw [concludes.failures, records.failures, ← records.decided]
    exact Verdict.failed_eq_filterMap outcomes
  · rw [concludes.failures, records.failures]
    exact records.nodup_ids.sublist (Verdict.ids_failed_sublist verdicts)
  · rw [concludes.summaries]
    simpa [Assessment.loanCount, SummaryCache.loanCount, SummaryCache.ofCategory]
      using concludes.loanCount true
  · rw [concludes.summaries]
    simpa [Assessment.loanCount, SummaryCache.loanCount, SummaryCache.ofCategory]
      using concludes.loanCount false
  · rw [concludes.totalLoans, records.summaries.length_eq, List.length_map, concludes.failures,
      records.failures, Verdict.length_built_add_failed, ← length_firstOccurrences,
      ← records.decided, List.length_map]

/-- The outcomes of the sample portfolio, with the series visited from the last one on: two loans
are summarised and two are not.
-/
theorem assessIn_collects_sample
    : Sample.collecting.failurePolicy = .collectErrors
      ∧ Sample.portfolio.source.Memoryless
      ∧ Sample.collecting.period.resolve Sample.portfolio.today = .ok Sample.quarter
      ∧ (∀ summaries : List BalanceSeries, summaries.reverse.Perm summaries)
      ∧ (∀ kind,
          ((assessIn List.reverse Sample.collecting Sample.portfolio).runAfter []).1
          ≠ .error (.overflowed kind))
      ∧ ∃ assessment after,
          (assessIn List.reverse Sample.collecting Sample.portfolio).runAfter []
            = (.ok assessment, after)
          ∧ assessment.failures
            = [⟨9, .dataAccessFailure 9 "closed"⟩, ⟨6, .unknownProduct 6 3⟩]
          ∧ assessment.totalLoans = 2 := by
  have memoryless : Sample.portfolio.source.Memoryless := Sample.ledger.memoryless_source
  have resolved
      : Sample.collecting.period.resolve Sample.portfolio.today = .ok Sample.quarter := by
    decide +kernel
  have fits
      : ∀ kind,
          ((assessIn List.reverse Sample.collecting Sample.portfolio).runAfter []).1
          ≠ .error (.overflowed kind) := by
    intro kind
    cases kind <;> decide +kernel
  obtain ⟨assessment, after, run, _, _, _, failures, _, _, _, counted⟩ :=
    assessIn_collects rfl memoryless resolved List.reverse_perm fits
  have noted
      : assessment.failures
        = [⟨9, .dataAccessFailure 9 "closed"⟩, ⟨6, .unknownProduct 6 3⟩] := by
    rw [failures]
    decide +kernel
  have identifiers : (Sample.portfolio.loans.map (·.id)).toFinset.card = 4 := by decide
  refine ⟨rfl, memoryless, resolved, List.reverse_perm, fits, assessment, after, run, noted, ?_⟩
  rw [noted, identifiers] at counted
  exact Nat.add_right_cancel counted

end ChargeConfig

end ChargeBasis

import ChargeBasis.Assessment
import ChargeBasis.Proofs.Summary.Cache
import ChargeBasis.Proofs.Summary.Failures

/-!
The steps of a run. A loan that was taken up before is noted or passed over; for every other one the
outcome of building its series on its own decides how the run goes on.
-/

namespace ChargeBasis

namespace ChargeConfig

/-- Builds the series of a loan without anything kept from other loans. -/
def buildAlone (config : ChargeConfig) (portfolio : Portfolio) (period : ChargePeriod)
    (loan : Loan)
    : Reading BalanceSeries :=
  match findProduct? portfolio.products loan.product with
  | some product =>
    (config.builder period portfolio.source).build loan product
      (config.strategy.modeFor product.category)
  | none => throw (.failed (.unknownProduct loan.id loan.product))

variable {config : ChargeConfig} {portfolio : Portfolio} {period : ChargePeriod}
  {progress next : Progress} {loan : Loan} {log after : FetchLog}

theorem exists_product_of_buildAlone {series : BalanceSeries}
    (h : (config.buildAlone portfolio period loan).runAfter log = (.ok series, after))
    : ∃ product,
        findProduct? portfolio.products loan.product = some product
        ∧ ((config.builder period portfolio.source).build loan product
            (config.strategy.modeFor product.category)).runAfter log
          = (.ok series, after) := by
  unfold buildAlone at h
  split at h
  · next product found => exact ⟨product, found, h⟩
  · cases h

theorem loan_of_buildAlone {series : BalanceSeries}
    (h : (config.buildAlone portfolio period loan).runAfter log = (.ok series, after))
    : series.loan = loan.id := by
  obtain ⟨product, _, built⟩ := exists_product_of_buildAlone h
  obtain ⟨figures, _, rfl⟩ := SummaryBuilder.exists_figures built
  rfl

theorem length_of_buildAlone {series : BalanceSeries}
    (h : (config.buildAlone portfolio period loan).runAfter log = (.ok series, after))
    : series.outstanding.length = period.months ∧ series.repayments.length = period.months := by
  obtain ⟨product, _, built⟩ := exists_product_of_buildAlone h
  exact SummaryBuilder.length_of_build built

/-- A series that was built on its own has at most the places kept if the loan's balances have. -/
theorem settled_of_buildAlone {series : BalanceSeries}
    (principal : loan.principalOutstanding.Settled) (total : loan.totalOutstanding.Settled)
    (h : (config.buildAlone portfolio period loan).runAfter log = (.ok series, after))
    : (∀ m ∈ series.outstanding, m.Settled) ∧ ∀ m ∈ series.repayments, m.Settled := by
  obtain ⟨product, _, built⟩ := exists_product_of_buildAlone h
  apply SummaryBuilder.settled_of_build _ built
  cases config.strategy.modeFor product.category with
  | monthly => exact total
  | daily => exact principal

theorem prefix_of_buildAlone {outcome : Except Fault BalanceSeries}
    (h : (config.buildAlone portfolio period loan).runAfter log = (outcome, after))
    : log <+: after := by
  unfold buildAlone at h
  split at h
  · exact SummaryBuilder.prefix_of_build h
  · cases h
    exact List.prefix_refl log

/-- With answers that do not depend on earlier requests a loan has one outcome on its own. -/
theorem buildAlone_memoryless (memoryless : portfolio.source.Memoryless) (other : FetchLog)
    : ((config.buildAlone portfolio period loan).runAfter log).1
      = ((config.buildAlone portfolio period loan).runAfter other).1 := by
  unfold buildAlone
  split
  · exact SummaryBuilder.build_memoryless memoryless other
  · rfl

/-- A loan without a series in the cache is built on its own and its series kept; a loan that cannot
be built leaves the cache as it was.
-/
theorem runAfter_summariseLoan {cache : SummaryCache} (absent : cache.contains loan.id = false)
    : (config.summariseLoan portfolio period loan).runAfter cache log
      = match (config.buildAlone portfolio period loan).runAfter log with
        | (.ok series, after) => ((.ok series, cache.insert series), after)
        | (.error fault, after) => ((.error fault, cache), after) := by
  unfold summariseLoan buildAlone
  rcases findProduct? portfolio.products loan.product with _ | product
  · rfl
  · exact SummaryCache.runAfter_getOrCompute_of_absent (SummaryCache.get?_eq_none absent) _ _ _ _

theorem runAfter_assessLoan_of_contains (known : progress.cache.contains loan.id = true)
    : (config.assessLoan portfolio period progress loan).runAfter log
      = (.ok
            { progress with
              trail := progress.trail.emit (.loanSummaryReused portfolio.run loan.id) }, log) := by
  rw [assessLoan, if_pos known]
  rfl

theorem runAfter_assessLoan_of_hasFailed (unknown : progress.cache.contains loan.id = false)
    (failed : progress.hasFailed loan.id = true)
    : (config.assessLoan portfolio period progress loan).runAfter log = (.ok progress, log) := by
  rw [assessLoan, if_neg (by simp [unknown]), if_pos failed]
  rfl

/-- A loan that is taken up for the first time is built on its own, and its series or its failure is
recorded; the failure ends the run if the policy says so.
-/
theorem runAfter_assessLoan_of_new (unknown : progress.cache.contains loan.id = false)
    (fresh : progress.hasFailed loan.id = false)
    : (config.assessLoan portfolio period progress loan).runAfter log
      = match (config.buildAlone portfolio period loan).runAfter log with
        | (.ok series, after) =>
          ((recordSummary portfolio.run progress loan series
              (progress.cache.insert series)).mapError .overflowed, after)
        | (.error (.failed error), after) =>
          match config.failurePolicy with
          | .failFast => (.error (.failed error), after)
          | .collectErrors => (.ok (recordFailure portfolio.run progress loan error), after)
        | (.error (.overflowed kind), after) => (.error (.overflowed kind), after) := by
  rw [assessLoan, if_neg (by simp [unknown]), if_neg (by simp [fresh]), Reading.runAfter_bind,
    Caching.runAfter_attemptOn, runAfter_summariseLoan unknown]
  rcases (config.buildAlone portfolio period loan).runAfter log
    with ⟨(error | kind) | series, after⟩
  · simp only
    cases config.failurePolicy <;> rfl
  · rfl
  · rfl

/-- What one loan can do to a run that goes on after it. -/
theorem assessLoan_cases
    (h : (config.assessLoan portfolio period progress loan).runAfter log = (.ok next, after))
    : (progress.cache.contains loan.id = true
        ∧ next
          = { progress with
              trail := progress.trail.emit (.loanSummaryReused portfolio.run loan.id) }
        ∧ after = log)
      ∨ (progress.cache.contains loan.id = false
        ∧ progress.hasFailed loan.id = true
        ∧ next = progress
        ∧ after = log)
      ∨ (progress.cache.contains loan.id = false
        ∧ progress.hasFailed loan.id = false
        ∧ ∃ series,
            (config.buildAlone portfolio period loan).runAfter log = (.ok series, after)
            ∧ recordSummary portfolio.run progress loan series (progress.cache.insert series)
              = .ok next)
      ∨ (progress.cache.contains loan.id = false
        ∧ progress.hasFailed loan.id = false
        ∧ ∃ error,
            (config.buildAlone portfolio period loan).runAfter log
              = (.error (.failed error), after)
            ∧ config.failurePolicy = .collectErrors
            ∧ next = recordFailure portfolio.run progress loan error) := by
  cases unknown : progress.cache.contains loan.id with
  | true =>
      rw [runAfter_assessLoan_of_contains unknown] at h
      cases h
      exact .inl ⟨rfl, rfl, rfl⟩
  | false =>
      cases fresh : progress.hasFailed loan.id with
      | true =>
          rw [runAfter_assessLoan_of_hasFailed unknown fresh] at h
          cases h
          exact .inr (.inl ⟨rfl, rfl, rfl, rfl⟩)
      | false =>
          rw [runAfter_assessLoan_of_new unknown fresh] at h
          rcases outcome : (config.buildAlone portfolio period loan).runAfter log
            with ⟨(error | kind) | series, final⟩
          · simp only [outcome] at h
            cases policy : config.failurePolicy with
            | failFast =>
                simp only [policy] at h
                cases h
            | collectErrors =>
                simp only [policy] at h
                cases h
                exact .inr (.inr (.inr ⟨rfl, rfl, error, rfl, rfl, rfl⟩))
          · simp only [outcome] at h
            cases h
          · simp only [outcome] at h
            obtain ⟨recorded, same⟩ := Prod.mk.inj h
            cases same
            rw [Except.mapError_eq_ok_iff] at recorded
            exact .inr (.inr (.inl ⟨rfl, rfl, series, rfl, recorded⟩))

/-- A loan ends a run with an error only when the first failure is to end it, and the error is that
of building its series on its own.
-/
theorem assessLoan_failed {error : ChargeError}
    (h
      : (config.assessLoan portfolio period progress loan).runAfter log
        = (.error (.failed error), after))
    : config.failurePolicy = .failFast
      ∧ progress.cache.contains loan.id = false
      ∧ progress.hasFailed loan.id = false
      ∧ (config.buildAlone portfolio period loan).runAfter log
        = (.error (.failed error), after) := by
  cases unknown : progress.cache.contains loan.id with
  | true =>
      rw [runAfter_assessLoan_of_contains unknown] at h
      cases h
  | false =>
      cases fresh : progress.hasFailed loan.id with
      | true =>
          rw [runAfter_assessLoan_of_hasFailed unknown fresh] at h
          cases h
      | false =>
          rw [runAfter_assessLoan_of_new unknown fresh] at h
          rcases outcome : (config.buildAlone portfolio period loan).runAfter log
            with ⟨(_ | kind) | series, final⟩
          · simp only [outcome] at h
            cases policy : config.failurePolicy with
            | failFast =>
                simp only [policy] at h
                cases h
                exact ⟨rfl, rfl, rfl, rfl⟩
            | collectErrors =>
                simp only [policy] at h
                cases h
          · simp only [outcome] at h
            cases h
          · simp only [outcome] at h
            exact absurd (Prod.mk.inj h).1 (Except.mapError_overflowed_ne_failed _ error)

/-- A loan ends a run with an overflow only when its identifier is new, and with the requests that
are made for its series on its own.
-/
theorem assessLoan_overflowed {kind : Overflow}
    (h
      : (config.assessLoan portfolio period progress loan).runAfter log
        = (.error (.overflowed kind), after))
    : progress.cache.contains loan.id = false
      ∧ progress.hasFailed loan.id = false
      ∧ ((config.buildAlone portfolio period loan).runAfter log).2 = after := by
  cases unknown : progress.cache.contains loan.id with
  | true =>
      rw [runAfter_assessLoan_of_contains unknown] at h
      cases h
  | false =>
      cases fresh : progress.hasFailed loan.id with
      | true =>
          rw [runAfter_assessLoan_of_hasFailed unknown fresh] at h
          cases h
      | false =>
          rw [runAfter_assessLoan_of_new unknown fresh] at h
          refine ⟨rfl, rfl, ?_⟩
          rcases outcome : (config.buildAlone portfolio period loan).runAfter log
            with ⟨(error | other) | series, final⟩
          · simp only [outcome] at h
            cases policy : config.failurePolicy <;>
              · simp only [policy] at h
                cases h
          · simp only [outcome] at h
            exact (Prod.mk.inj h).2
          · simp only [outcome] at h
            exact (Prod.mk.inj h).2

-----------------------------------------------------------------------------------------
-- Whole runs
-----------------------------------------------------------------------------------------

/-- A run over a period that is found takes up the loans and sums up. -/
theorem runAfter_assessIn_of_resolved (order : List BalanceSeries → List BalanceSeries)
    (resolved : config.period.resolve portfolio.today = .ok period)
    : (assessIn order config portfolio).runAfter log
      = match
          (portfolio.loans.foldlM (config.assessLoan portfolio period)
            (begin portfolio.run period)).runAfter log
        with
        | (.ok progress, after) => (concludeIn order portfolio period progress, after)
        | (.error fault, after) => (.error fault, after) := by
  simp only [assessIn, Reading.runAfter_bind, Reading.runAfter_liftM, Except.liftM_failed,
    resolved, Except.mapError]
  rcases (portfolio.loans.foldlM (config.assessLoan portfolio period)
    (begin portfolio.run period)).runAfter log with ⟨fault | progress, after⟩ <;> rfl

theorem runAfter_assessIn_of_unresolved (order : List BalanceSeries → List BalanceSeries)
    {error : ChargeError} (unresolved : config.period.resolve portfolio.today = .error error)
    : (assessIn order config portfolio).runAfter log = (.error (.failed error), log) := by
  simp only [assessIn, Reading.runAfter_bind, Reading.runAfter_liftM, Except.liftM_failed,
    unresolved, Except.mapError]

/-- A run with a result has found the period, taken up all loans and summed up. -/
theorem exists_walk {order : List BalanceSeries → List BalanceSeries} {assessment : Assessment}
    (h : (assessIn order config portfolio).runAfter log = (.ok assessment, after))
    : ∃ period progress,
        config.period.resolve portfolio.today = .ok period
        ∧ (portfolio.loans.foldlM (config.assessLoan portfolio period)
              (begin portfolio.run period)).runAfter log
          = (.ok progress, after)
        ∧ concludeIn order portfolio period progress = .ok assessment := by
  rcases resolved : config.period.resolve portfolio.today with error | period
  · rw [runAfter_assessIn_of_unresolved order resolved] at h
    cases h
  · rw [runAfter_assessIn_of_resolved order resolved] at h
    rcases walk
      : (portfolio.loans.foldlM (config.assessLoan portfolio period)
          (begin portfolio.run period)).runAfter log
      with ⟨fault | progress, final⟩
    · rw [walk] at h
      cases h
    · rw [walk] at h
      obtain ⟨concluded, rfl⟩ := Prod.mk.inj h
      exact ⟨period, progress, rfl, walk, concluded⟩

end ChargeConfig

end ChargeBasis

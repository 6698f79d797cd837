import ChargeBasis.Proofs.Assessment.VisitingOrder

/-!
The two policies for failures. As long as no loan fails, a run does the same under both; at the
first failure the one that ends with it stops and the other one goes on. A run is marked by its
identifier, which has no influence on anything but the mark. Each run visits its series in an order
of its own, so that even without failures the sums by category need not be the same.
-/

namespace ChargeBasis

-----------------------------------------------------------------------------------------
-- Marks
-----------------------------------------------------------------------------------------

/-- The same event in a run with another identifier. -/
def AuditEvent.markedBy (run : Uuid) : AuditEvent → AuditEvent
  | .periodResolved _ period year fromDate toDate =>
    .periodResolved run period year fromDate toDate
  | .loanSummarised _ loan mode totalOutstanding totalRepayments =>
    .loanSummarised run loan mode totalOutstanding totalRepayments
  | .loanSummaryReused _ loan => .loanSummaryReused run loan
  | .loanSummaryFailed _ loan reason => .loanSummaryFailed run loan reason
  | .portfolioAggregated _ isDemandLoan loanCount totalOutstanding =>
    .portfolioAggregated run isDemandLoan loanCount totalOutstanding

/-- The same trail in a run with another identifier. -/
def AuditTrail.markedBy (run : Uuid) (trail : AuditTrail) : AuditTrail :=
  ⟨trail.events.map (·.markedBy run)⟩

/-- The same state in a run with another identifier. -/
def Progress.markedBy (run : Uuid) (progress : Progress) : Progress :=
  { progress with trail := progress.trail.markedBy run }

/-- The same result of a run with another identifier. -/
def Assessment.markedBy (run : Uuid) (assessment : Assessment) : Assessment :=
  { assessment with run, events := assessment.events.map (·.markedBy run) }

/-- The same portfolio assessed in a run with another identifier. -/
def Portfolio.markedBy (run : Uuid) (portfolio : Portfolio) : Portfolio :=
  { portfolio with run }

@[simp] theorem AuditTrail.markedBy_emit (run : Uuid) (trail : AuditTrail) (event : AuditEvent)
    : (trail.emit event).markedBy run = (trail.markedBy run).emit (event.markedBy run) := by
  simp [markedBy, emit]

namespace ChargeConfig

variable {config : ChargeConfig} {portfolio : Portfolio} {period : ChargePeriod}
  {progress next final : Progress} {loan : Loan} {loans : List Loan} {log after : FetchLog}
  {run : Uuid} {order other : List BalanceSeries → List BalanceSeries} {assessment : Assessment}

theorem recordSummary_markedBy (other : Uuid) (series : BalanceSeries) (cache : SummaryCache)
    : recordSummary run (progress.markedBy run) loan series cache
      = (recordSummary other progress loan series cache).map (·.markedBy run) := by
  simp only [recordSummary, bind, Except.bind, pure, Except.pure, Progress.markedBy]
  rcases series.totalOutstanding with _ | outstanding
  · rfl
  rcases series.totalRepayments with _ | repayments
  · rfl
  simp only
  rcases progress.totalOutstanding.add loan.totalOutstanding with _ | total
  · rfl
  · simp only [Except.map, AuditTrail.markedBy_emit]
    rfl

theorem recordFailure_markedBy (other : Uuid) (error : ChargeError)
    : recordFailure run (progress.markedBy run) loan error
      = (recordFailure other progress loan error).markedBy run := by
  simp only [recordFailure, Progress.markedBy, AuditTrail.markedBy_emit]
  rfl

/-- A loan is taken up in the same way in a run with another identifier. -/
theorem runAfter_assessLoan_markedBy
    : (config.assessLoan (portfolio.markedBy run) period (progress.markedBy run) loan).runAfter
        log
      = ((config.assessLoan portfolio period progress loan).runAfter log).map
          (Except.map (·.markedBy run)) id := by
  have mark : (portfolio.markedBy run).run = run := rfl
  have cache : (progress.markedBy run).cache = progress.cache := rfl
  have failed : (progress.markedBy run).hasFailed loan.id = progress.hasFailed loan.id := rfl
  cases unknown : progress.cache.contains loan.id with
  | true =>
      rw [runAfter_assessLoan_of_contains (by rw [cache, unknown]),
        runAfter_assessLoan_of_contains unknown]
      simp only [Prod.map, Except.map, Progress.markedBy, AuditTrail.markedBy_emit]
      rfl
  | false =>
      cases fresh : progress.hasFailed loan.id with
      | true =>
          rw [runAfter_assessLoan_of_hasFailed (by rw [cache, unknown]) (by rw [failed, fresh]),
            runAfter_assessLoan_of_hasFailed unknown fresh]
          rfl
      | false =>
          have alone
              : config.buildAlone (portfolio.markedBy run) period loan
                = config.buildAlone portfolio period loan := rfl
          rw [runAfter_assessLoan_of_new (by rw [cache, unknown]) (by rw [failed, fresh]),
            runAfter_assessLoan_of_new unknown fresh, alone]
          rcases (config.buildAlone portfolio period loan).runAfter log
            with ⟨(error | kind) | series, after⟩
          · cases config.failurePolicy with
            | failFast => rfl
            | collectErrors =>
                simp only [Prod.map, Except.map, ← recordFailure_markedBy]
                rfl
          · rfl
          · simp only [Prod.map]
            rw [mark, cache, recordSummary_markedBy portfolio.run]
            cases recordSummary portfolio.run progress loan series
              (progress.cache.insert series) <;> rfl

/-- Loans are taken up in the same way in a run with another identifier, by induction over them. -/
theorem runAfter_foldlM_markedBy
    : (loans.foldlM (config.assessLoan (portfolio.markedBy run) period)
          (progress.markedBy run)).runAfter log
      = ((loans.foldlM (config.assessLoan portfolio period) progress).runAfter log).map
          (Except.map (·.markedBy run)) id := by
  induction loans generalizing progress log with
  | nil => rfl
  | cons loan rest ih =>
      rw [List.foldlM_cons, List.foldlM_cons, Reading.runAfter_bind, Reading.runAfter_bind,
        runAfter_assessLoan_markedBy]
      rcases (config.assessLoan portfolio period progress loan).runAfter log
        with ⟨fault | next, after⟩
      · rfl
      · exact ih

theorem concludeIn_markedBy
    : concludeIn order (portfolio.markedBy run) period (progress.markedBy run)
      = (concludeIn order portfolio period progress).map (·.markedBy run) := by
  simp only [concludeIn, aggregated, Progress.markedBy]
  rcases (progress.cache.visitedIn order).monthlyOutstanding true with _ | demandOutstanding
  · rfl
  rcases (progress.cache.visitedIn order).monthlyOutstanding false with _ | termOutstanding
  · rfl
  rcases (progress.cache.visitedIn order).monthlyRepayments true with _ | demandRepayments
  · rfl
  rcases (progress.cache.visitedIn order).monthlyRepayments false with _ | termRepayments
  · rfl
  simp only [bind, Except.bind, pure, Except.pure]
  rcases Money.sum demandOutstanding with _ | demand
  · rfl
  rcases Money.sum termOutstanding with _ | term
  · rfl
  simp [Except.map, Assessment.markedBy, AuditTrail.emit, AuditTrail.markedBy, liftM, monadLift,
    MonadLift.monadLift, Except.mapError, AuditEvent.markedBy, Portfolio.markedBy]

/-- Another identifier changes nothing but the marks of a run: it makes the same requests and has
the same result but for them.
-/
theorem runAfter_assessIn_markedBy (order : List BalanceSeries → List BalanceSeries)
    : (assessIn order config (portfolio.markedBy run)).runAfter log
      = ((assessIn order config portfolio).runAfter log).map (Except.map (·.markedBy run)) id := by
  rcases resolved : config.period.resolve portfolio.today with error | period
  · have same : config.period.resolve (portfolio.markedBy run).today = .error error := resolved
    rw [runAfter_assessIn_of_unresolved order resolved, runAfter_assessIn_of_unresolved order same]
    rfl
  · have same : config.period.resolve (portfolio.markedBy run).today = .ok period := resolved
    have walk
        : ((portfolio.markedBy run).loans.foldlM
            (config.assessLoan (portfolio.markedBy run) period)
            (begin (portfolio.markedBy run).run period)).runAfter log
          = ((portfolio.loans.foldlM (config.assessLoan portfolio period)
              (begin portfolio.run period)).runAfter log).map (Except.map (·.markedBy run)) id :=
      @runAfter_foldlM_markedBy config portfolio period (begin portfolio.run period)
        portfolio.loans log run
    rw [runAfter_assessIn_of_resolved order resolved, runAfter_assessIn_of_resolved order same,
      walk]
    rcases (portfolio.loans.foldlM (config.assessLoan portfolio period)
      (begin portfolio.run period)).runAfter log with ⟨fault | progress, after⟩
    · rfl
    · exact congrArg (·, after) concludeIn_markedBy

-----------------------------------------------------------------------------------------
-- Two policies
-----------------------------------------------------------------------------------------

/-- The configuration in which a failure of a loan is noted. -/
def collecting (config : ChargeConfig) : ChargeConfig :=
  { config with failurePolicy := .collectErrors }

/-- The configuration in which a failure of a loan ends the run. -/
def failingFast (config : ChargeConfig) : ChargeConfig :=
  { config with failurePolicy := .failFast }

/-- A loan that is taken up while failures are collected either adds no failure and is taken up in
the same way when the first one ends the run, or adds the one that ends that run.
-/
theorem assessLoan_failingFast
    (h
      : (config.collecting.assessLoan portfolio period progress loan).runAfter log
        = (.ok next, after))
    : (next.failures = progress.failures
        ∧ (config.failingFast.assessLoan portfolio period progress loan).runAfter log
          = (.ok next, after))
      ∨ ∃ error,
          next.failures = progress.failures ++ [⟨loan.id, error⟩]
          ∧ (config.failingFast.assessLoan portfolio period progress loan).runAfter log
            = (.error (.failed error), after) := by
  -- building a series on its own does not depend on the policy
  have alone
      : config.failingFast.buildAlone portfolio period loan
        = config.collecting.buildAlone portfolio period loan := rfl
  rcases assessLoan_cases h with
    ⟨known, rfl, rfl⟩ | ⟨unknown, known, rfl, rfl⟩ | ⟨unknown, fresh, series, build, recorded⟩
    | ⟨unknown, fresh, error, build, _, rfl⟩
  · exact .inl ⟨rfl, runAfter_assessLoan_of_contains known⟩
  · exact .inl ⟨rfl, runAfter_assessLoan_of_hasFailed unknown known⟩
  · have same : next.failures = progress.failures := by
      obtain ⟨_, _, _, _, _, _, rfl⟩ := recordSummary_eq_ok recorded
      rfl
    refine .inl ⟨same, ?_⟩
    rw [runAfter_assessLoan_of_new unknown fresh, alone, build]
    simp only [recorded]
    rfl
  · refine .inr ⟨error, rfl, ?_⟩
    rw [runAfter_assessLoan_of_new unknown fresh, alone, build]
    rfl

theorem prefix_of_assessLoan
    (h
      : (config.assessLoan portfolio period progress loan).runAfter log = (.ok next, after))
    : log <+: after := by
  rcases assessLoan_cases h with
    ⟨_, _, rfl⟩ | ⟨_, _, _, rfl⟩ | ⟨_, _, _, build, _⟩ | ⟨_, _, _, build, _⟩
  · exact List.prefix_refl _
  · exact List.prefix_refl _
  · exact prefix_of_buildAlone build
  · exact prefix_of_buildAlone build

/-- Taking up loans only adds requests to the log, by induction over the loans. -/
theorem prefix_of_foldlM_assessLoan
    (h
      : (loans.foldlM (config.assessLoan portfolio period) progress).runAfter log
        = (.ok final, after))
    : log <+: after := by
  induction loans generalizing progress log with
  | nil =>
      cases h
      exact List.prefix_refl _
  | cons loan rest ih =>
      rw [List.foldlM_cons, Reading.runAfter_bind_eq_ok_iff] at h
      obtain ⟨next, between, first, others⟩ := h
      exact (prefix_of_assessLoan first).trans (ih others)

/-- Loans that are taken up while failures are collected are taken up in the same way when the first
failure ends the run, if there is none; otherwise the first one that is noted ends that run, with
no other requests until then. The induction is over the loans.
-/
theorem foldlM_assessLoan_failingFast
    (h
      : (loans.foldlM (config.collecting.assessLoan portfolio period) progress).runAfter log
        = (.ok final, after))
    : ∃ noted,
        final.failures = progress.failures ++ noted
        ∧ (noted = []
          → (loans.foldlM (config.failingFast.assessLoan portfolio period) progress).runAfter log
            = (.ok final, after))
        ∧ ∀ failure ∈ noted.head?,
            ∃ calls,
              (loans.foldlM (config.failingFast.assessLoan portfolio period) progress).runAfter
                  log
                = (.error (.failed failure.error), calls)
              ∧ log <+: calls
              ∧ calls <+: after := by
  induction loans generalizing progress log with
  | nil =>
      cases h
      exact ⟨[], (List.append_nil _).symm, fun _ => rfl, by simp⟩
  | cons loan rest ih =>
      rw [List.foldlM_cons, Reading.runAfter_bind_eq_ok_iff] at h
      obtain ⟨next, between, first, others⟩ := h
      obtain ⟨noted, failures, without, ended⟩ := ih others
      have begun := prefix_of_assessLoan first
      simp only [List.foldlM_cons, Reading.runAfter_bind]
      rcases assessLoan_failingFast first with ⟨same, step⟩ | ⟨error, added, step⟩
      · simp only [step]
        refine ⟨noted, by rw [failures, same], without, ?_⟩
        intro failure head
        obtain ⟨calls, stopped, further, within⟩ := ended failure head
        exact ⟨calls, stopped, begun.trans further, within⟩
      · simp only [step]
        refine ⟨⟨loan.id, error⟩ :: noted, by rw [failures, added, List.append_assoc]; rfl, nofun,
          ?_⟩
        intro failure head
        cases head
        exact ⟨between, rfl, begun, prefix_of_foldlM_assessLoan others⟩

/-- A run with a result that collects failures takes up the loans in the same way when the first
failure ends the run, if there is none, and then sums them up in its own order; otherwise it ends
with the first one that is noted.
-/
theorem assessIn_failingFast (run : Uuid)
    (h : (assessIn order config.collecting portfolio).runAfter log = (.ok assessment, after))
    : (assessment.failures = []
        → ∃ period progress,
            concludeIn order (portfolio.markedBy run) period progress
              = .ok (assessment.markedBy run)
            ∧ (∀ series ∈ progress.cache.summaries,
                series.outstanding.length = progress.cache.months
                ∧ series.repayments.length = progress.cache.months)
            ∧ ∀ other,
                (assessIn other config.failingFast (portfolio.markedBy run)).runAfter log
                = (concludeIn other (portfolio.markedBy run) period progress, after))
      ∧ ∀ failure ∈ assessment.failures.head?,
          ∃ calls,
            (∀ other,
              (assessIn other config.failingFast (portfolio.markedBy run)).runAfter log
              = (.error (.failed failure.error), calls))
            ∧ log <+: calls
            ∧ calls <+: after := by
  obtain ⟨period, progress, resolved, walk, concluded⟩ := exists_walk h
  obtain ⟨noted, failures, without, ended⟩ := foldlM_assessLoan_failingFast walk
  have all : assessment.failures = noted :=
    (concludes_of_concludeIn concluded).failures.trans failures
  have found : config.failingFast.period.resolve portfolio.today = .ok period := resolved
  rw [all]
  constructor
  · intro none
    obtain ⟨_, records⟩ := (config.collecting.records_begin portfolio period log).foldlM walk
    refine ⟨period, progress.markedBy run, ?_, records.lengths, fun other => ?_⟩
    · rw [concludeIn_markedBy, concluded]
      rfl
    · rw [runAfter_assessIn_markedBy, runAfter_assessIn_of_resolved other found, without none,
        concludeIn_markedBy]
      rfl
  · intro failure head
    obtain ⟨calls, stopped, begun, within⟩ := ended failure head
    refine ⟨calls, fun other => ?_, begun, within⟩
    rw [runAfter_assessIn_markedBy, runAfter_assessIn_of_resolved other found, stopped]
    rfl

end ChargeConfig

namespace Sample

/-- The greatest amount with all places that are kept, or its opposite. -/
def greatest (negative : Bool) : Money :=
  ⟨⟨negative, Decimal.limit - 1, Money.workingPlaces, Decimal.limit_sub_one_lt,
    Money.workingPlaces_le_maxScale⟩⟩

/-- Three term loans without transactions: with the greatest balance, with one of two units of the
last place, and with the opposite of the greatest.
-/
def opposed : Portfolio :=
  { portfolio with
    loans :=
      [{ loan with id := 1, product := 2, totalOutstanding := greatest false },
        { loan with
          id := 2
          product := 2
          totalOutstanding :=
            ⟨⟨false, 2, Money.workingPlaces, by decide, Money.workingPlaces_le_maxScale⟩⟩ },
        { loan with id := 3, product := 2, totalOutstanding := greatest true }] }

/-- Visits the others behind the first from the end. -/
def firstThenReversed : List BalanceSeries → List BalanceSeries
  | [] => []
  | first :: rest => first :: rest.reverse

theorem firstThenReversed_perm (summaries : List BalanceSeries)
    : (firstThenReversed summaries).Perm summaries := by
  cases summaries with
  | nil => exact .refl _
  | cons first rest => exact rest.reverse_perm.cons first

end Sample

namespace ChargeConfig

end ChargeConfig

end ChargeBasis

import ChargeBasis.Proofs.Assessment.Steps

/-!
The record of a run. Each identifier is decided once, by the first loan that carries it: its series
is built on its own, after the requests for the loans before it, and is kept or noted as a failure.
-/

namespace ChargeBasis

-----------------------------------------------------------------------------------------
-- First occurrences
-----------------------------------------------------------------------------------------

/-- The loans whose identifier does not occur before them. -/
def firstOccurrences : List Loan → List Loan
  | [] => []
  | loan :: later =>
    loan :: (firstOccurrences later).filter fun other => other.id ≠ loan.id

/-- Every identifier has a first occurrence. -/
theorem mem_ids_firstOccurrences {loans : List Loan} {id : LoanId}
    : id ∈ (firstOccurrences loans).map (·.id) ↔ id ∈ loans.map (·.id) := by
  induction loans with
  | nil => rfl
  | cons loan later ih =>
      by_cases same : id = loan.id
      · simp [firstOccurrences, same]
      · have kept
            : id ∈ ((firstOccurrences later).filter fun other => other.id ≠ loan.id).map (·.id)
              ↔ id ∈ (firstOccurrences later).map (·.id) := by
          simp only [List.mem_map, List.mem_filter, decide_eq_true_eq]
          constructor
          · intro kept
            obtain ⟨other, ⟨member, _⟩, rfl⟩ := kept
            exact ⟨other, member, rfl⟩
          · intro listed
            obtain ⟨other, member, rfl⟩ := listed
            exact ⟨other, ⟨member, same⟩, rfl⟩
        rw [firstOccurrences, List.map_cons, List.mem_cons, kept, ih, List.map_cons,
          List.mem_cons]

theorem nodup_firstOccurrences (loans : List Loan)
    : ((firstOccurrences loans).map (·.id)).Nodup := by
  induction loans with
  | nil => exact List.nodup_nil
  | cons loan later ih =>
      rw [firstOccurrences, List.map_cons, List.nodup_cons]
      refine ⟨?_, ih.sublist (List.filter_sublist.map _)⟩
      intro member
      obtain ⟨other, kept, same⟩ := List.mem_map.mp member
      exact of_decide_eq_true (List.mem_filter.mp kept).2 same

theorem firstOccurrences_sublist (loans : List Loan)
    : (firstOccurrences loans).Sublist loans := by
  induction loans with
  | nil => exact .slnil
  | cons loan later ih => exact (List.filter_sublist.trans ih).cons_cons loan

/-- There are as many first occurrences as distinct identifiers. -/
theorem length_firstOccurrences (loans : List Loan)
    : (firstOccurrences loans).length = (loans.map (·.id)).toFinset.card := by
  have ids : ((firstOccurrences loans).map (·.id)).toFinset = (loans.map (·.id)).toFinset := by
    ext id
    rw [List.mem_toFinset, List.mem_toFinset, mem_ids_firstOccurrences]
  rw [← ids, List.toFinset_card_of_nodup (nodup_firstOccurrences loans), List.length_map]

/-- One more loan is a first occurrence exactly if its identifier is new. -/
theorem firstOccurrences_append_singleton (loans : List Loan) (loan : Loan)
    : firstOccurrences (loans ++ [loan])
      = if loan.id ∈ loans.map (·.id) then firstOccurrences loans
        else firstOccurrences loans ++ [loan] := by
  induction loans with
  | nil => rfl
  | cons head later ih =>
      rw [List.cons_append, firstOccurrences, ih, firstOccurrences, List.map_cons]
      -- with the identifier of the head the loan is filtered out again, wherever it comes
      by_cases same : loan.id = head.id
      · by_cases known : loan.id ∈ later.map (·.id)
        · rw [if_pos known, if_pos (List.mem_cons.mpr (.inl same))]
        · rw [if_neg known, if_pos (List.mem_cons.mpr (.inl same)), List.filter_append]
          simp [same]
      · by_cases known : loan.id ∈ later.map (·.id)
        · rw [if_pos known, if_pos (List.mem_cons.mpr (.inr known))]
        · rw [if_neg known, if_neg (by simp [same, known]), List.filter_append]
          simp [same]

/-- A loan occurs first exactly if no loan before it carries its identifier. -/
theorem mem_firstOccurrences_iff {loans : List Loan} {loan : Loan}
    : loan ∈ firstOccurrences loans
      ↔ ∃ front back, loans = front ++ loan :: back ∧ loan.id ∉ front.map (·.id) := by
  induction loans with
  | nil => simp [firstOccurrences]
  | cons head later ih =>
      rw [firstOccurrences, List.mem_cons, List.mem_filter, ih, decide_eq_true_eq]
      constructor
      · intro first
        rcases first with rfl | ⟨⟨front, back, rfl, absent⟩, different⟩
        · exact ⟨[], later, rfl, by simp⟩
        · exact ⟨head :: front, back, rfl, by simpa using ⟨different, by simpa using absent⟩⟩
      · intro first
        obtain ⟨front, back, split, absent⟩ := first
        cases front with
        | nil =>
            cases split
            exact .inl rfl
        | cons first rest =>
            obtain ⟨rfl, rfl⟩ := List.cons.inj split
            simp only [List.map_cons, List.mem_cons, not_or] at absent
            exact .inr ⟨⟨rest, back, rfl, absent.2⟩, absent.1⟩

theorem mem_of_mem_firstOccurrences {loans : List Loan} {loan : Loan}
    (first : loan ∈ firstOccurrences loans)
    : loan ∈ loans :=
  (firstOccurrences_sublist loans).subset first

-----------------------------------------------------------------------------------------
-- Verdicts
-----------------------------------------------------------------------------------------

/-- A loan with its series or the error that there is none for. -/
abbrev Verdict := Loan × Except ChargeError BalanceSeries

namespace Verdict

/-- The loans that were summarised, with their series. -/
def built (verdicts : List Verdict) : List (Loan × BalanceSeries) :=
  verdicts.filterMap fun verdict =>
    match verdict.2 with
    | .ok series => some (verdict.1, series)
    | .error _ => none

/-- The loans that could not be summarised, with their errors. -/
def failed (verdicts : List Verdict) : List LoanFailure :=
  verdicts.filterMap fun verdict =>
    match verdict.2 with
    | .ok _ => none
    | .error error => some ⟨verdict.1.id, error⟩

theorem built_append (front back : List Verdict)
    : built (front ++ back) = built front ++ built back :=
  List.filterMap_append

theorem failed_append (front back : List Verdict)
    : failed (front ++ back) = failed front ++ failed back :=
  List.filterMap_append

theorem mem_built {verdicts : List Verdict} {loan : Loan} {series : BalanceSeries}
    : (loan, series) ∈ built verdicts ↔ (loan, .ok series) ∈ verdicts := by
  simp only [built, List.mem_filterMap]
  constructor
  · intro listed
    rcases listed with ⟨⟨other, error | found⟩, member, same⟩
    · cases same
    · cases same
      exact member
  · intro member
    exact ⟨_, member, rfl⟩

theorem mem_failed {verdicts : List Verdict} {failure : LoanFailure}
    : failure ∈ failed verdicts
      ↔ ∃ loan, loan.id = failure.loan ∧ (loan, .error failure.error) ∈ verdicts := by
  simp only [failed, List.mem_filterMap]
  constructor
  · intro listed
    rcases listed with ⟨⟨loan, error | found⟩, member, same⟩
    · cases same
      exact ⟨loan, rfl, member⟩
    · cases same
  · intro decided
    obtain ⟨loan, same, member⟩ := decided
    exact ⟨_, member, by simp [same]⟩

end Verdict

namespace ChargeConfig

/-- The loans are built on their own in this order, each after the requests for those before it, and
none of them overflows.
-/
inductive BuildsInOrder (config : ChargeConfig) (portfolio : Portfolio) (period : ChargePeriod)
    (log : FetchLog)
    : List Verdict → FetchLog → Prop
  | nil : config.BuildsInOrder portfolio period log [] log
  | snoc {verdicts between loan outcome after}
    (before : config.BuildsInOrder portfolio period log verdicts between)
    (build
      : (config.buildAlone portfolio period loan).runAfter between
        = (outcome.mapError .failed, after))
    : config.BuildsInOrder portfolio period log (verdicts ++ [(loan, outcome)]) after

section BuildsInOrder

variable {config : ChargeConfig} {portfolio : Portfolio} {period : ChargePeriod}
  {log after : FetchLog} {verdicts : List Verdict}

theorem BuildsInOrder.log_prefix
    (builds : config.BuildsInOrder portfolio period log verdicts after)
    : log <+: after := by
  induction builds with
  | nil => exact List.prefix_refl log
  | snoc _ build ih => exact ih.trans (prefix_of_buildAlone build)

/-- Every verdict is the outcome of building the loan on its own after some of the requests. -/
theorem BuildsInOrder.exists_build
    (builds : config.BuildsInOrder portfolio period log verdicts after) {loan : Loan}
    {outcome : Except ChargeError BalanceSeries} (member : (loan, outcome) ∈ verdicts)
    : ∃ between final,
        log <+: between
        ∧ final <+: after
        ∧ (config.buildAlone portfolio period loan).runAfter between
          = (outcome.mapError .failed, final) := by
  induction builds with
  | nil => cases member
  | @snoc verdicts between loan outcome after before build ih =>
      rcases List.mem_append.mp member with earlier | last
      · obtain ⟨start, final, started, ended, own⟩ := ih earlier
        exact ⟨start, final, started, ended.trans (prefix_of_buildAlone build), own⟩
      · cases List.mem_singleton.mp last
        exact ⟨between, after, before.log_prefix, List.prefix_refl after, build⟩

end BuildsInOrder

end ChargeConfig

-----------------------------------------------------------------------------------------
-- The record of a run
-----------------------------------------------------------------------------------------

/-- What the events report for summarised loans: the sums of the balances and of the repayments. -/
def summaryTotals (events : List AuditEvent) : List (LoanId × Money × Money) :=
  events.filterMap fun
    | .loanSummarised _ loan _ outstanding repayments => some (loan, outstanding, repayments)
    | _ => none

/-- What the events report for the categories: the sums of the balances of their loans. -/
def categoryTotals (events : List AuditEvent) : List (Bool × Money) :=
  events.filterMap fun
    | .portfolioAggregated _ isDemandLoan _ totalOutstanding =>
      some (isDemandLoan, totalOutstanding)
    | _ => none

/-- An entry reports the sums of a series. -/
def BalanceSeries.TotalsAre (series : BalanceSeries) (entry : LoanId × Money × Money) : Prop :=
  entry.1 = series.loan
  ∧ series.totalOutstanding = .ok entry.2.1
  ∧ series.totalRepayments = .ok entry.2.2

/-- The state of a run after some loans records the verdicts on their first occurrences. -/
structure Progress.Records (config : ChargeConfig) (portfolio : Portfolio)
    (period : ChargePeriod) (log : FetchLog) (loans : List Loan) (verdicts : List Verdict)
    (progress : Progress) (after : FetchLog)
    : Prop where
  builds : config.BuildsInOrder portfolio period log verdicts after
  decided : verdicts.map (·.1) = firstOccurrences loans
  months : progress.cache.months = period.months
  ascending : SummaryCache.Ascending progress.cache.summaries
  summaries : progress.cache.summaries.Perm ((Verdict.built verdicts).map (·.2))
  failures : progress.failures = Verdict.failed verdicts
  total
    : Money.sum ((Verdict.built verdicts).map (·.1.totalOutstanding))
      = .ok progress.totalOutstanding
  events
    : List.Forall₂ BalanceSeries.TotalsAre ((Verdict.built verdicts).map (·.2))
        (summaryTotals progress.trail.events)
  unfinished : categoryTotals progress.trail.events = []

section Records

variable {config : ChargeConfig} {portfolio : Portfolio} {period : ChargePeriod}
  {log between after : FetchLog} {loans : List Loan} {verdicts : List Verdict}
  {progress next : Progress}

theorem ChargeConfig.BuildsInOrder.loan_eq
    (builds : config.BuildsInOrder portfolio period log verdicts after) {loan : Loan}
    {series : BalanceSeries} (member : (loan, series) ∈ Verdict.built verdicts)
    : series.loan = loan.id := by
  obtain ⟨_, _, _, _, build⟩ := builds.exists_build (Verdict.mem_built.mp member)
  exact config.loan_of_buildAlone build

theorem Progress.Records.contains_iff
    (records : progress.Records config portfolio period log loans verdicts after) {id : LoanId}
    : progress.cache.contains id = true ↔ id ∈ (Verdict.built verdicts).map (·.1.id) := by
  rw [SummaryCache.contains_iff, (records.summaries.map _).mem_iff, List.map_map]
  have same
      : (Verdict.built verdicts).map ((·.loan) ∘ (·.2))
        = (Verdict.built verdicts).map (·.1.id) :=
    List.map_congr_left fun entry member => records.builds.loan_eq member
  rw [same]

theorem Progress.Records.hasFailed_iff
    (records : progress.Records config portfolio period log loans verdicts after) {id : LoanId}
    : progress.hasFailed id = true ↔ id ∈ (Verdict.failed verdicts).map (·.loan) := by
  rw [Progress.hasFailed, records.failures]
  simp [List.any_eq_true]

/-- An identifier was seen exactly if it is in the cache or among the failures. -/
theorem Progress.Records.seen_iff
    (records : progress.Records config portfolio period log loans verdicts after) {id : LoanId}
    : id ∈ loans.map (·.id)
      ↔ progress.cache.contains id = true ∨ progress.hasFailed id = true := by
  rw [← mem_ids_firstOccurrences, ← records.decided, records.contains_iff,
    records.hasFailed_iff]
  simp only [List.mem_map]
  constructor
  · intro listed
    rcases listed with ⟨loan, ⟨⟨other, error | series⟩, member, rfl⟩, rfl⟩
    · exact .inr ⟨⟨other.id, error⟩, Verdict.mem_failed.mpr ⟨other, rfl, member⟩, rfl⟩
    · exact .inl ⟨(other, series), Verdict.mem_built.mpr member, rfl⟩
  · intro recorded
    rcases recorded with ⟨⟨loan, series⟩, member, rfl⟩ | ⟨failure, member, rfl⟩
    · exact ⟨loan, ⟨_, Verdict.mem_built.mp member, rfl⟩, rfl⟩
    · obtain ⟨loan, same, found⟩ := Verdict.mem_failed.mp member
      exact ⟨loan, ⟨_, found, rfl⟩, same⟩

/-- An identifier that is neither in the cache nor among the failures is new. -/
theorem Progress.Records.not_mem_ids
    (records : progress.Records config portfolio period log loans verdicts after) {id : LoanId}
    (unknown : progress.cache.contains id = false) (fresh : progress.hasFailed id = false)
    : id ∉ loans.map (·.id) := by
  rw [records.seen_iff, unknown, fresh]
  simp

/-- The kept series are the verdicts that are series. -/
theorem Progress.Records.mem_summaries
    (records : progress.Records config portfolio period log loans verdicts after)
    {series : BalanceSeries}
    : series ∈ progress.cache.summaries ↔ ∃ loan, (loan, .ok series) ∈ verdicts := by
  rw [records.summaries.mem_iff, List.mem_map]
  constructor
  · intro kept
    obtain ⟨⟨loan, _⟩, built, rfl⟩ := kept
    exact ⟨loan, Verdict.mem_built.mp built⟩
  · intro decided
    obtain ⟨loan, member⟩ := decided
    exact ⟨(loan, series), Verdict.mem_built.mpr member, rfl⟩

theorem Progress.Records.mem_loans
    (records : progress.Records config portfolio period log loans verdicts after) {loan : Loan}
    {outcome : Except ChargeError BalanceSeries} (member : (loan, outcome) ∈ verdicts)
    : loan ∈ loans := by
  apply mem_of_mem_firstOccurrences
  rw [← records.decided]
  exact List.mem_map_of_mem member

theorem Progress.Records.nodup_ids
    (records : progress.Records config portfolio period log loans verdicts after)
    : (verdicts.map (·.1.id)).Nodup := by
  have ids := nodup_firstOccurrences loans
  rwa [← records.decided, List.map_map] at ids

theorem Progress.Records.lengths
    (records : progress.Records config portfolio period log loans verdicts after)
    : ∀ series ∈ progress.cache.summaries,
        series.outstanding.length = progress.cache.months
        ∧ series.repayments.length = progress.cache.months := by
  intro series member
  obtain ⟨loan, verdict⟩ := records.mem_summaries.mp member
  obtain ⟨_, _, _, _, build⟩ := records.builds.exists_build verdict
  rw [records.months]
  exact config.length_of_buildAlone build

/-- What is recorded for a loan that was summarised. -/
theorem ChargeConfig.recordSummary_eq_ok {run : Uuid} {loan : Loan} {series : BalanceSeries}
    {cache : SummaryCache} (h : recordSummary run progress loan series cache = .ok next)
    : ∃ outstanding repayments total,
        series.totalOutstanding = .ok outstanding
        ∧ series.totalRepayments = .ok repayments
        ∧ progress.totalOutstanding.add loan.totalOutstanding = .ok total
        ∧ next
          = { progress with
              cache
              totalOutstanding := total
              trail :=
                progress.trail.emit
                  (.loanSummarised run loan.id series.mode outstanding repayments) } := by
  simp only [recordSummary, Except.bind_eq_ok_iff] at h
  obtain ⟨outstanding, summed, repayments, repaid, total, added, same⟩ := h
  cases same
  exact ⟨outstanding, repayments, total, summed, repaid, added, rfl⟩

/-- A loan whose identifier was seen needs no verdict. -/
theorem Progress.Records.repeated
    (records : progress.Records config portfolio period log loans verdicts after) {loan : Loan}
    (seen : loan.id ∈ loans.map (·.id))
    : progress.Records config portfolio period log (loans ++ [loan]) verdicts after :=
  { records with
    decided := by
      rw [firstOccurrences_append_singleton, if_pos seen]
      exact records.decided }

/-- Noting that a series is reused changes nothing that is recorded. -/
theorem Progress.Records.reused
    (records : progress.Records config portfolio period log loans verdicts after) (run : Uuid)
    (loan : LoanId)
    : ({ progress with trail := progress.trail.emit (.loanSummaryReused run loan) }).Records
        config portfolio period log loans verdicts after where
  builds := records.builds
  decided := records.decided
  months := records.months
  ascending := records.ascending
  summaries := records.summaries
  failures := records.failures
  total := records.total
  events := by
    simpa [AuditTrail.emit, summaryTotals, List.filterMap_append] using records.events
  unfinished := by
    simpa [AuditTrail.emit, categoryTotals, List.filterMap_append] using records.unfinished

/-- The verdict on a loan whose identifier is new is on its first occurrence. -/
theorem Progress.Records.decided_snoc
    (records : progress.Records config portfolio period log loans verdicts after) {loan : Loan}
    (unknown : progress.cache.contains loan.id = false)
    (fresh : progress.hasFailed loan.id = false) (outcome : Except ChargeError BalanceSeries)
    : (verdicts ++ [(loan, outcome)]).map (·.1) = firstOccurrences (loans ++ [loan]) := by
  have new := records.not_mem_ids unknown fresh
  rw [firstOccurrences_append_singleton, if_neg new, List.map_append, records.decided]
  rfl

/-- The series of a new loan is recorded with the verdict. -/
theorem Progress.Records.summarised
    (records : progress.Records config portfolio period log loans verdicts between) {loan : Loan}
    {series : BalanceSeries} (unknown : progress.cache.contains loan.id = false)
    (fresh : progress.hasFailed loan.id = false)
    (build
      : (config.buildAlone portfolio period loan).runAfter between = (.ok series, after))
    (recorded
      : ChargeConfig.recordSummary portfolio.run progress loan series
          (progress.cache.insert series)
        = .ok next)
    : next.Records config portfolio period log (loans ++ [loan])
        (verdicts ++ [(loan, .ok series)]) after := by
  obtain ⟨outstanding, repayments, total, summed, repaid, added, rfl⟩ :=
    ChargeConfig.recordSummary_eq_ok recorded
  have owner : series.loan = loan.id := config.loan_of_buildAlone build
  have absent : series.loan ∉ progress.cache.summaries.map (·.loan) := by
    rw [owner, ← SummaryCache.contains_iff, unknown]
    simp
  have built
      : Verdict.built (verdicts ++ [(loan, .ok series)])
        = Verdict.built verdicts ++ [(loan, series)] :=
    Verdict.built_append _ _
  exact {
    builds := records.builds.snoc build
    decided := records.decided_snoc unknown fresh _
    months := records.months
    ascending := SummaryCache.ascending_insertSeries records.ascending absent
    summaries := by
      rw [built, List.map_append]
      exact (SummaryCache.insertSeries_perm _ _).trans
        ((records.summaries.cons series).trans (List.perm_append_singleton _ _).symm)
    failures := by
      rw [Verdict.failed_append]
      simpa [Verdict.failed] using records.failures
    total := by
      rw [built, List.map_append]
      exact Money.sum_append_singleton records.total added
    events := by
      rw [built, List.map_append]
      simp only [AuditTrail.emit, summaryTotals, List.filterMap_append]
      exact List.rel_append records.events (.cons ⟨owner.symm, summed, repaid⟩ .nil)
    unfinished := by
      simpa [AuditTrail.emit, categoryTotals, List.filterMap_append] using records.unfinished
  }

/-- The failure of a new loan is recorded with the verdict. -/
theorem Progress.Records.failed
    (records : progress.Records config portfolio period log loans verdicts between) {loan : Loan}
    {error : ChargeError} (unknown : progress.cache.contains loan.id = false)
    (fresh : progress.hasFailed loan.id = false)
    (build
      : (config.buildAlone portfolio period loan).runAfter between
        = (.error (.failed error), after))
    : (ChargeConfig.recordFailure portfolio.run progress loan error).Records config portfolio
        period log (loans ++ [loan]) (verdicts ++ [(loan, .error error)]) after := by
  have built : Verdict.built (verdicts ++ [(loan, .error error)]) = Verdict.built verdicts := by
    rw [Verdict.built_append]
    simp [Verdict.built]
  exact {
    builds := records.builds.snoc build
    decided := records.decided_snoc unknown fresh _
    months := records.months
    ascending := records.ascending
    summaries := built ▸ records.summaries
    failures := by
      rw [Verdict.failed_append]
      change progress.failures ++ _ = _
      rw [records.failures]
      rfl
    total := built ▸ records.total
    events := by
      rw [built]
      simpa [ChargeConfig.recordFailure, AuditTrail.emit, summaryTotals,
        List.filterMap_append] using records.events
    unfinished := by
      simpa [ChargeConfig.recordFailure, AuditTrail.emit, categoryTotals,
        List.filterMap_append] using records.unfinished
  }

/-- A further loan leaves a record of the verdicts, with one for the loan if it occurs first. -/
theorem Progress.Records.step
    (records : progress.Records config portfolio period log loans verdicts between) {loan : Loan}
    (h : (config.assessLoan portfolio period progress loan).runAfter between = (.ok next, after))
    : ∃ more,
        next.Records config portfolio period log (loans ++ [loan]) (verdicts ++ more) after := by
  rcases config.assessLoan_cases h with
    ⟨known, rfl, rfl⟩ | ⟨_, known, rfl, rfl⟩ | ⟨unknown, fresh, series, build, recorded⟩
    | ⟨unknown, fresh, error, build, _, rfl⟩
  · refine ⟨[], ?_⟩
    rw [List.append_nil]
    exact (records.repeated (records.seen_iff.mpr (.inl known))).reused portfolio.run loan.id
  · refine ⟨[], ?_⟩
    rw [List.append_nil]
    exact records.repeated (records.seen_iff.mpr (.inr known))
  · exact ⟨_, records.summarised unknown fresh build recorded⟩
  · exact ⟨_, records.failed unknown fresh build⟩

/-- A run through further loans leaves a record of all verdicts, by induction over the loans. -/
theorem Progress.Records.foldlM
    (records : progress.Records config portfolio period log loans verdicts between)
    {further : List Loan}
    (h
      : (further.foldlM (config.assessLoan portfolio period) progress).runAfter between
        = (.ok next, after))
    : ∃ more,
        next.Records config portfolio period log (loans ++ further) (verdicts ++ more) after := by
  induction further generalizing progress loans verdicts between with
  | nil =>
      cases h
      exact ⟨[], by rwa [List.append_nil, List.append_nil]⟩
  | cons loan rest ih =>
      rw [List.foldlM_cons, Reading.runAfter_bind_eq_ok_iff] at h
      obtain ⟨middle, reached, first, others⟩ := h
      obtain ⟨one, middleRecords⟩ := records.step first
      obtain ⟨more, finalRecords⟩ := ih middleRecords others
      refine ⟨one ++ more, ?_⟩
      rw [List.append_cons, ← List.append_assoc]
      exact finalRecords

theorem ChargeConfig.records_begin (config : ChargeConfig) (portfolio : Portfolio)
    (period : ChargePeriod) (log : FetchLog)
    : (begin portfolio.run period).Records config portfolio period log [] [] log where
  builds := .nil
  decided := rfl
  months := rfl
  ascending := List.Pairwise.nil
  summaries := .refl _
  failures := rfl
  total := rfl
  events := .nil
  unfinished := rfl

/-- A run with a result has recorded all loans before it summed up. -/
theorem ChargeConfig.exists_records {order : List BalanceSeries → List BalanceSeries}
    {assessment : Assessment}
    (h : (assessIn order config portfolio).runAfter log = (.ok assessment, after))
    : ∃ period verdicts progress,
        config.period.resolve portfolio.today = .ok period
        ∧ progress.Records config portfolio period log portfolio.loans verdicts after
        ∧ concludeIn order portfolio period progress = .ok assessment := by
  obtain ⟨period, progress, resolved, walk, concluded⟩ := exists_walk h
  obtain ⟨verdicts, records⟩ := (config.records_begin portfolio period _).foldlM walk
  exact ⟨period, verdicts, progress, resolved, records, concluded⟩

end Records

end ChargeBasis

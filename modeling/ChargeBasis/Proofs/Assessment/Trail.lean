import ChargeBasis.Proofs.Assessment.Outcomes

/-!
The audit trail of a run. It can be written again from the loans and the result: the period, then
what became of each loan when its identifier came first, every later use of a series, and the sums
of the two categories.
-/

namespace ChargeBasis

-----------------------------------------------------------------------------------------
-- The trail that a result tells
-----------------------------------------------------------------------------------------

namespace Assessment

/-- The series of a loan. -/
def seriesOf? (assessment : Assessment) (id : LoanId) : Option BalanceSeries :=
  assessment.summaries.find? fun series => series.loan == id

/-- The failure of a loan. -/
def failureOf? (assessment : Assessment) (id : LoanId) : Option LoanFailure :=
  assessment.failures.find? fun failure => failure.loan == id

/-- The event for the first loan with an identifier: its series with the sums, or its error. -/
def firstEvents (assessment : Assessment) (id : LoanId) : Except Overflow (List AuditEvent) :=
  match assessment.seriesOf? id, assessment.failureOf? id with
  | some series, _ => do
    let outstanding ← series.totalOutstanding
    let repayments ← series.totalRepayments
    return [.loanSummarised assessment.run id series.mode outstanding repayments]
  | none, some failure => return [.loanSummaryFailed assessment.run id failure.error.message]
  | none, none => return []

/-- The event for a further loan with an identifier, if there is a series to be used again. -/
def laterEvents (assessment : Assessment) (id : LoanId) : List AuditEvent :=
  match assessment.seriesOf? id with
  | some _ => [.loanSummaryReused assessment.run id]
  | none => []

/-- The events for a loan that comes after others. -/
def eventsOf (assessment : Assessment) (earlier : List Loan) (loan : Loan)
    : Except Overflow (List AuditEvent) :=
  if loan.id ∈ earlier.map (·.id) then .ok (assessment.laterEvents loan.id)
  else assessment.firstEvents loan.id

/-- The events for loans in their order, after others. -/
def loanEvents (assessment : Assessment) (earlier : List Loan)
    : List Loan → Except Overflow (List AuditEvent)
  | [] => return []
  | loan :: later => do
    let own ← assessment.eventsOf earlier loan
    return own ++ (← assessment.loanEvents (earlier ++ [loan]) later)

/-- The trail of a run over some loans, as its result tells it. -/
def story (assessment : Assessment) (loans : List Loan) : Except Overflow (List AuditEvent) := do
  let period := assessment.period
  let onLoans ← assessment.loanEvents [] loans
  let demand ← assessment.demandLoanTotal
  let term ← assessment.termLoanTotal
  let resolved := AuditEvent.periodResolved assessment.run period.period period.year
    period.fromDate period.toDate
  return resolved :: (onLoans
    ++ [AuditEvent.portfolioAggregated assessment.run true assessment.demandLoanCount demand,
      AuditEvent.portfolioAggregated assessment.run false assessment.termLoanCount term])

section Run

variable {assessment : Assessment} {events : List AuditEvent}

theorem run_of_firstEvents {id : LoanId} (told : assessment.firstEvents id = .ok events)
    : ∀ event ∈ events, event.run = assessment.run := by
  unfold firstEvents at told
  split at told
  · simp only [Except.bind_eq_ok_iff] at told
    obtain ⟨_, _, _, _, same⟩ := told
    cases same
    simp [AuditEvent.run]
  · cases told
    simp [AuditEvent.run]
  · cases told
    simp

theorem run_of_laterEvents (assessment : Assessment) (id : LoanId)
    : ∀ event ∈ assessment.laterEvents id, event.run = assessment.run := by
  unfold laterEvents
  split <;> simp [AuditEvent.run]

theorem run_of_eventsOf {earlier : List Loan} {loan : Loan}
    (told : assessment.eventsOf earlier loan = .ok events)
    : ∀ event ∈ events, event.run = assessment.run := by
  unfold eventsOf at told
  split at told
  · cases told
    exact run_of_laterEvents assessment loan.id
  · exact run_of_firstEvents told

/-- The events for loans carry the mark of the run, by induction over the loans. -/
theorem run_of_loanEvents {earlier loans : List Loan}
    (told : assessment.loanEvents earlier loans = .ok events)
    : ∀ event ∈ events, event.run = assessment.run := by
  induction loans generalizing earlier events with
  | nil =>
      cases told
      simp
  | cons loan later ih =>
      simp only [loanEvents, Except.bind_eq_ok_iff] at told
      obtain ⟨own, first, others, rest, same⟩ := told
      cases same
      intro event member
      rcases List.mem_append.mp member with member | member
      · exact run_of_eventsOf first event member
      · exact ih rest event member

/-- Every event of the trail carries the mark of the run. -/
theorem run_of_story {loans : List Loan} (told : assessment.story loans = .ok events)
    : ∀ event ∈ events, event.run = assessment.run := by
  simp only [story, Except.bind_eq_ok_iff] at told
  obtain ⟨onLoans, middle, demand, _, term, _, same⟩ := told
  cases same
  intro event member
  rcases List.mem_cons.mp member with rfl | member
  · rfl
  · rcases List.mem_append.mp member with member | member
    · exact run_of_loanEvents middle event member
    · simp only [List.mem_cons, List.not_mem_nil, or_false] at member
      rcases member with rfl | rfl <;> rfl

end Run

-----------------------------------------------------------------------------------------
-- Results and verdicts
-----------------------------------------------------------------------------------------

/-- The result shows the series of the loans that have one and the errors of the others. -/
structure Shows (assessment : Assessment) (run : Uuid) (verdicts : List Verdict) : Prop where
  run : assessment.run = run
  series
    : ∀ loan series,
        (loan, .ok series) ∈ verdicts → assessment.seriesOf? loan.id = some series
  unsummarised
    : ∀ loan error, (loan, .error error) ∈ verdicts → assessment.seriesOf? loan.id = none
  failure
    : ∀ loan error,
        (loan, .error error) ∈ verdicts → assessment.failureOf? loan.id = some ⟨loan.id, error⟩

theorem Shows.of_append {assessment : Assessment} {run : Uuid} {verdicts more : List Verdict}
    (whole : assessment.Shows run (verdicts ++ more))
    : assessment.Shows run verdicts where
  run := whole.run
  series loan series member := whole.series loan series (List.mem_append_left _ member)
  unsummarised loan error member :=
    whole.unsummarised loan error (List.mem_append_left _ member)
  failure loan error member := whole.failure loan error (List.mem_append_left _ member)

end Assessment

/-- An entry with a key that occurs once is the one that is found by it. -/
theorem find?_of_nodup {α : Type} {key : α → LoanId} {items : List α}
    (unique : (items.map key).Nodup) {item : α} (member : item ∈ items)
    : items.find? (fun other => key other == key item) = some item := by
  have found : (items.find? fun other => key other == key item).isSome = true :=
    List.find?_isSome.mpr ⟨item, member, beq_self_eq_true _⟩
  obtain ⟨other, first⟩ := Option.isSome_iff_exists.mp found
  have named : key other = key item := by simpa using List.find?_some first
  have same : other = item :=
    List.inj_on_of_nodup_map unique (List.mem_of_find?_eq_some first) member named
  rw [first, same]

section Records

variable {config : ChargeConfig} {portfolio : Portfolio} {period : ChargePeriod}
  {log between after : FetchLog} {loans : List Loan} {verdicts : List Verdict}
  {progress next : Progress} {assessment : Assessment}
  {order : List BalanceSeries → List BalanceSeries}

theorem SummaryCache.Ascending.nodup_ids {summaries : List BalanceSeries}
    (ascending : SummaryCache.Ascending summaries)
    : (summaries.map (·.loan)).Nodup :=
  List.pairwise_map.mpr (ascending.imp fun {_ _} before => UInt64.ne_of_lt before)

theorem Progress.Records.nodup_failures
    (records : progress.Records config portfolio period log loans verdicts after)
    : (progress.failures.map (·.loan)).Nodup := by
  rw [records.failures]
  exact records.nodup_ids.sublist (Verdict.ids_failed_sublist verdicts)

/-- Every identifier that was seen has a series or an error, and not both. -/
theorem Progress.Records.failed_iff
    (records : progress.Records config portfolio period log loans verdicts after) {id : LoanId}
    (seen : id ∈ loans.map (·.id))
    : id ∈ progress.failures.map (·.loan) ↔ id ∉ progress.cache.summaries.map (·.loan) := by
  rw [records.failures]
  constructor
  · intro listed
    obtain ⟨failure, noted, rfl⟩ := List.mem_map.mp listed
    obtain ⟨loan, owner, verdict⟩ := Verdict.mem_failed.mp noted
    rw [← owner]
    exact records.not_mem_summaries verdict
  · intro absent
    rcases records.seen_iff.mp seen with known | failed
    · exact absurd (SummaryCache.contains_iff.mp known) absent
    · exact records.hasFailed_iff.mp failed

/-- The result of a run shows the verdicts that the run has recorded. -/
theorem Progress.Records.shows
    (records : progress.Records config portfolio period log loans verdicts after)
    (concludes : assessment.Concludes order portfolio period progress)
    : assessment.Shows portfolio.run verdicts where
  run := concludes.run
  series := by
    intro loan series verdict
    have kept := records.mem_summaries.mpr ⟨loan, verdict⟩
    have owner := records.builds.loan_eq (Verdict.mem_built.mpr verdict)
    rw [Assessment.seriesOf?, concludes.summaries, ← owner]
    exact find?_of_nodup records.ascending.nodup_ids kept
  unsummarised := by
    intro loan error verdict
    have absent := records.not_mem_summaries verdict
    rw [Assessment.seriesOf?, concludes.summaries, List.find?_eq_none]
    intro series kept same
    exact absent (List.mem_map.mpr ⟨series, kept, eq_of_beq same⟩)
  failure := by
    intro loan error verdict
    have noted : ⟨loan.id, error⟩ ∈ progress.failures := by
      rw [records.failures]
      exact Verdict.mem_failed.mpr ⟨loan, rfl, verdict⟩
    rw [Assessment.failureOf?, concludes.failures]
    exact find?_of_nodup records.nodup_failures noted

-----------------------------------------------------------------------------------------
-- Runs
-----------------------------------------------------------------------------------------

/-- One loan adds the events to the trail that a result tells if it shows the verdicts so far. -/
theorem Progress.Records.exists_own_events
    (records : progress.Records config portfolio period log loans verdicts between)
    {loan : Loan}
    (h
      : (config.assessLoan portfolio period progress loan).runAfter between
        = (.ok next, after))
    : ∃ one own,
        next.Records config portfolio period log (loans ++ [loan]) (verdicts ++ one) after
        ∧ next.trail.events = progress.trail.events ++ own
        ∧ ∀ assessment : Assessment,
            assessment.Shows portfolio.run (verdicts ++ one)
            → assessment.eventsOf loans loan = .ok own := by
  rcases ChargeConfig.assessLoan_cases h with
    ⟨known, rfl, rfl⟩ | ⟨unknown, known, rfl, rfl⟩ | ⟨unknown, fresh, series, build, recorded⟩
    | ⟨unknown, fresh, error, build, _, rfl⟩
  · have seen := records.seen_iff.mpr (.inl known)
    obtain ⟨⟨other, series⟩, built, same⟩ := List.mem_map.mp (records.contains_iff.mp known)
    refine ⟨[], _, ?_, rfl, ?_⟩
    · rw [List.append_nil]
      exact (records.repeated seen).reused portfolio.run loan.id
    · intro assessment result
      have shown := result.of_append.series other series (Verdict.mem_built.mp built)
      rw [Assessment.eventsOf, if_pos seen, Assessment.laterEvents, ← same, shown, result.run]
  · have seen := records.seen_iff.mpr (.inr known)
    obtain ⟨failure, noted, same⟩ := List.mem_map.mp (records.hasFailed_iff.mp known)
    obtain ⟨other, owner, verdict⟩ := Verdict.mem_failed.mp noted
    refine ⟨[], [], ?_, (List.append_nil _).symm, ?_⟩
    · rw [List.append_nil]
      exact records.repeated seen
    · intro assessment result
      have absent := result.of_append.unsummarised other failure.error verdict
      rw [Assessment.eventsOf, if_pos seen, Assessment.laterEvents, ← same, ← owner, absent]
  · have new := records.not_mem_ids unknown fresh
    have further := records.summarised unknown fresh build recorded
    obtain ⟨outstanding, repayments, total, summed, repaid, _, rfl⟩ :=
      ChargeConfig.recordSummary_eq_ok recorded
    refine ⟨_, _, further, rfl, ?_⟩
    intro assessment result
    have shown := result.series loan series (by simp)
    rw [Assessment.eventsOf, if_neg new, Assessment.firstEvents, shown, result.run]
    simp only [summed, repaid]
    rfl
  · have new := records.not_mem_ids unknown fresh
    refine ⟨_, _, records.failed unknown fresh build, rfl, ?_⟩
    intro assessment result
    have absent := result.unsummarised loan error (by simp)
    have shown := result.failure loan error (by simp)
    rw [Assessment.eventsOf, if_neg new, Assessment.firstEvents, absent, shown, result.run]
    rfl

/-- A run through further loans adds the events to the trail that a result tells if it shows the
verdicts at the end; by induction over the loans.
-/
theorem Progress.Records.exists_events
    (records : progress.Records config portfolio period log loans verdicts between)
    {further : List Loan}
    (h
      : (further.foldlM (config.assessLoan portfolio period) progress).runAfter between
        = (.ok next, after))
    : ∃ more events,
        next.Records config portfolio period log (loans ++ further) (verdicts ++ more) after
        ∧ next.trail.events = progress.trail.events ++ events
        ∧ ∀ assessment : Assessment,
            assessment.Shows portfolio.run (verdicts ++ more)
            → assessment.loanEvents loans further = .ok events := by
  induction further generalizing progress loans verdicts between with
  | nil =>
      cases h
      refine ⟨[], [], ?_, (List.append_nil _).symm, fun _ _ => rfl⟩
      rwa [List.append_nil, List.append_nil]
  | cons loan rest ih =>
      rw [List.foldlM_cons, Reading.runAfter_bind_eq_ok_iff] at h
      obtain ⟨middle, reached, first, others⟩ := h
      obtain ⟨one, own, middleRecords, added, told⟩ := records.exists_own_events first
      obtain ⟨more, events, finalRecords, grown, later⟩ := ih middleRecords others
      refine ⟨one ++ more, own ++ events, ?_, ?_, ?_⟩
      · rw [List.append_cons, ← List.append_assoc]
        exact finalRecords
      · rw [grown, added, List.append_assoc]
      · intro assessment result
        rw [← List.append_assoc] at result
        rw [Assessment.loanEvents, told assessment result.of_append, later assessment result]
        rfl

end Records

namespace ChargeConfig

variable {config : ChargeConfig} {portfolio : Portfolio} {log after : FetchLog}
  {order : List BalanceSeries → List BalanceSeries}

/-- The trail of a run with a result is the one that the result tells of the loans, in whatever
order the series are visited: the period with its boundaries; in the order of the loans, for the
first one with an identifier either its series with the sums or its error, of which the result has
exactly one, and for a further one the use of the series, if there is one; and the sums of the
demand loans and of the term loans. Every event carries the mark of the run.
-/
theorem assessIn_trail {assessment : Assessment}
    (h : (assessIn order config portfolio).runAfter log = (.ok assessment, after))
    : assessment.story portfolio.loans = .ok assessment.events
      ∧ (∀ event ∈ assessment.events, event.run = assessment.run)
      ∧ (∀ loan ∈ portfolio.loans,
          loan.id ∈ assessment.failures.map (·.loan)
          ↔ loan.id ∉ assessment.summaries.map (·.loan))
      ∧ (assessment.summaries.map (·.loan)).Nodup
      ∧ (assessment.failures.map (·.loan)).Nodup := by
  obtain ⟨period, progress, _, walk, concluded⟩ := exists_walk h
  have concludes := concludes_of_concludeIn concluded
  obtain ⟨verdicts, onLoans, records, trail, told⟩ :=
    (config.records_begin portfolio period _).exists_events walk
  rw [List.nil_append, List.nil_append] at records
  have loanEvents := told assessment (records.shows concludes)
  obtain ⟨demand, term, demandTotal, termTotal, events⟩ := concludes.events
  have story : assessment.story portfolio.loans = .ok assessment.events := by
    rw [Assessment.story, loanEvents, demandTotal, termTotal, events, trail, concludes.period,
      concludes.run]
    rfl
  refine ⟨story, Assessment.run_of_story story, ?_, ?_, ?_⟩
  · intro loan member
    rw [concludes.failures, concludes.summaries]
    exact records.failed_iff (List.mem_map_of_mem member)
  · rw [concludes.summaries]
    exact records.ascending.nodup_ids
  · rw [concludes.failures]
    exact records.nodup_failures

/-- The trail of the sample portfolio when its series are visited from the last one on: two loans
are summarised, two have failed and one series is used again, while the loan that failed is passed
over when it comes again.
-/
theorem assessIn_trail_sample
    : ∃ assessment after,
        (assessIn List.reverse Sample.collecting Sample.portfolio).runAfter []
          = (.ok assessment, after)
        ∧ assessment.story Sample.portfolio.loans = .ok assessment.events
        ∧ assessment.events.length = 8
        ∧ assessment.events[4]? = some (AuditEvent.loanSummaryReused .nil 7)
        ∧ assessment.events[5]?
          = some (AuditEvent.loanSummaryFailed .nil 6 "loan 6 references unknown product 3") := by
  have told
      : ((assessIn List.reverse Sample.collecting Sample.portfolio).runAfter []).1.toOption.any
          (fun assessment =>
            assessment.events.length = 8
            ∧ assessment.events[4]? = some (AuditEvent.loanSummaryReused .nil 7)
            ∧ assessment.events[5]?
              = some (AuditEvent.loanSummaryFailed .nil 6 "loan 6 references unknown product 3"))
        = true := by
    decide +kernel
  rcases run : (assessIn List.reverse Sample.collecting Sample.portfolio).runAfter []
    with ⟨fault | assessment, after⟩
  · rw [run] at told
    cases told
  · simp only [run, Except.toOption, Option.any_some, decide_eq_true_eq] at told
    exact ⟨assessment, after, rfl, (assessIn_trail run).1, told⟩

end ChargeConfig

end ChargeBasis

import ChargeBasis.Proofs.Assessment.Conclusion
import ChargeBasis.Proofs.Summary.Requests

/-!
What a run asks for. The requests of a run are those for the first occurrence of every identifier
whose product is listed, loan by loan: a repeated loan causes none, whether it was summarised or
failed before, and only an error that is to end the run keeps later loans from theirs.
-/

namespace ChargeBasis

/-- The requests for the months of the loans whose product is listed, loan by loan. -/
def Portfolio.plans (portfolio : Portfolio) (period : ChargePeriod) (loans : List Loan)
    : List (List Fetch) :=
  (loans.filter fun loan => (findProduct? portfolio.products loan.product).isSome).map
    fun loan => loan.requestsIn period.windows

theorem Portfolio.plans_append (portfolio : Portfolio) (period : ChargePeriod)
    (front back : List Loan)
    : portfolio.plans period (front ++ back)
      = portfolio.plans period front ++ portfolio.plans period back := by
  rw [plans, List.filter_append, List.map_append, ← plans, ← plans]

/-- The requests for the loans of a portfolio in turn. -/
def Portfolio.askedFor (portfolio : Portfolio) (period : ChargePeriod) (log : FetchLog)
    (loans : List Loan)
    : List Fetch :=
  portfolio.source.askedInTurn log (portfolio.plans period loans)

section AskedFor

variable {portfolio : Portfolio} {period : ChargePeriod} {log : FetchLog} {loan : Loan}

theorem Portfolio.askedFor_append (front back : List Loan)
    : portfolio.askedFor period log (front ++ back)
      = portfolio.askedFor period log front
        ++ portfolio.askedFor period (log ++ portfolio.askedFor period log front) back := by
  simp only [askedFor, plans_append, TransactionSource.askedInTurn_append]

theorem Portfolio.askedFor_prefix {front all : List Loan} (first : front <+: all)
    : portfolio.askedFor period log front <+: portfolio.askedFor period log all := by
  obtain ⟨back, rfl⟩ := first
  rw [askedFor_append]
  exact List.prefix_append _ _

theorem Portfolio.askedFor_of_unknown
    (missing : findProduct? portfolio.products loan.product = none)
    : portfolio.askedFor period log [loan] = [] := by
  simp [askedFor, plans, missing, TransactionSource.askedInTurn]

theorem Portfolio.askedFor_of_known {product : LoanProduct}
    (found : findProduct? portfolio.products loan.product = some product)
    : portfolio.askedFor period log [loan]
      = portfolio.source.asked log (loan.requestsIn period.windows) := by
  simp [askedFor, plans, found, TransactionSource.askedInTurn_singleton]

end AskedFor

/-- The first occurrences of some loans stay the first ones when loans are added. -/
theorem firstOccurrences_prefix (front back : List Loan)
    : firstOccurrences front <+: firstOccurrences (front ++ back) := by
  induction back generalizing front with
  | nil => rw [List.append_nil]
  | cons loan later ih =>
      have one : firstOccurrences front <+: firstOccurrences (front ++ [loan]) := by
        rw [firstOccurrences_append_singleton]
        split
        · exact List.prefix_refl _
        · exact List.prefix_append _ _
      rw [List.append_cons]
      exact one.trans (ih _)

-----------------------------------------------------------------------------------------
-- One loan
-----------------------------------------------------------------------------------------

/-- Why a loan ends a run: its product is not listed, or one of its requests is answered with the
error.
-/
def Portfolio.Refuses (portfolio : Portfolio) (period : ChargePeriod) (log : FetchLog)
    (loan : Loan) (error : ChargeError)
    : Prop :=
  match findProduct? portfolio.products loan.product with
  | some _ => portfolio.source.refusal? log (loan.requestsIn period.windows) = some error
  | none => error = .unknownProduct loan.id loan.product

namespace ChargeConfig

section BuildAlone

variable {config : ChargeConfig} {portfolio : Portfolio} {period : ChargePeriod}
  {log after : FetchLog} {loan : Loan}

/-- A loan whose product is listed polls the source on its own; any other one fails at once. -/
theorem buildAlone_cases {outcome : Except Fault BalanceSeries}
    (h : (config.buildAlone portfolio period loan).runAfter log = (outcome, after))
    : (∃ product,
        findProduct? portfolio.products loan.product = some product
        ∧ portfolio.source.Polls log (loan.requestsIn period.windows) outcome after)
      ∨ (findProduct? portfolio.products loan.product = none
        ∧ outcome = .error (.failed (.unknownProduct loan.id loan.product))
        ∧ after = log) := by
  unfold buildAlone at h
  split at h
  · next product found => exact .inl ⟨product, found, SummaryBuilder.build_polls h⟩
  · next missing =>
    obtain ⟨rfl, rfl⟩ := Prod.mk.inj h
    exact .inr ⟨missing, rfl, rfl⟩

theorem exists_made_of_buildAlone (config : ChargeConfig) (portfolio : Portfolio)
    (period : ChargePeriod) (loan : Loan) (log : FetchLog)
    : ∃ made,
        made <+: portfolio.askedFor period log [loan]
        ∧ ((config.buildAlone portfolio period loan).runAfter log).2 = log ++ made := by
  rcases build : (config.buildAlone portfolio period loan).runAfter log with ⟨outcome, after⟩
  rcases buildAlone_cases build with ⟨product, found, polls⟩ | ⟨missing, _, rfl⟩
  · rw [Portfolio.askedFor_of_known found]
    exact polls.exists_made
  · exact ⟨[], List.nil_prefix, (List.append_nil _).symm⟩

/-- Apart from an overflow the requests for the loan are made up to the first error. -/
theorem log_of_buildAlone (outcome : Except ChargeError BalanceSeries)
    (h
      : (config.buildAlone portfolio period loan).runAfter log
        = (outcome.mapError .failed, after))
    : after = log ++ portfolio.askedFor period log [loan] := by
  rcases buildAlone_cases h with ⟨product, found, polls⟩ | ⟨missing, _, rfl⟩
  · rw [Portfolio.askedFor_of_known found]
    refine polls.after_eq fun kind same => ?_
    cases outcome <;> cases same
  · rw [Portfolio.askedFor_of_unknown missing, List.append_nil]

theorem refuses_of_buildAlone {error : ChargeError}
    (h
      : (config.buildAlone portfolio period loan).runAfter log
        = (.error (.failed error), after))
    : portfolio.Refuses period log loan error := by
  unfold Portfolio.Refuses
  rcases buildAlone_cases h with ⟨product, found, polls⟩ | ⟨missing, same, _⟩
  · rw [found]
    cases polls with
    | refused _ first => exact first
  · rw [missing]
    cases same
    rfl

/-- Loans that are built in order make the requests for each in turn, by induction over them. -/
theorem BuildsInOrder.log_eq {verdicts : List Verdict}
    (builds : config.BuildsInOrder portfolio period log verdicts after)
    : after = log ++ portfolio.askedFor period log (verdicts.map (·.1)) := by
  induction builds with
  | nil => exact (List.append_nil _).symm
  | snoc _ build ih =>
      rw [log_of_buildAlone _ build, ih, List.map_append, Portfolio.askedFor_append,
        List.append_assoc]
      rfl

end BuildAlone

end ChargeConfig

-----------------------------------------------------------------------------------------
-- Whole runs
-----------------------------------------------------------------------------------------

section Records

variable {config : ChargeConfig} {portfolio : Portfolio} {period : ChargePeriod}
  {log between after : FetchLog} {loans : List Loan} {verdicts : List Verdict}
  {progress : Progress}

/-- The requests so far are those for the first occurrences. -/
theorem Progress.Records.log_eq
    (records : progress.Records config portfolio period log loans verdicts after)
    : after = log ++ portfolio.askedFor period log (firstOccurrences loans) := by
  rw [← records.decided]
  exact records.builds.log_eq

/-- A loan that is neither in the cache nor among the failures is the next first occurrence. -/
theorem Progress.Records.firstOccurrences_of_new
    (records : progress.Records config portfolio period log loans verdicts after) {loan : Loan}
    (unknown : progress.cache.contains loan.id = false)
    (fresh : progress.hasFailed loan.id = false)
    : loan.id ∉ loans.map (·.id)
      ∧ firstOccurrences (loans ++ [loan]) = firstOccurrences loans ++ [loan] := by
  have new := records.not_mem_ids unknown fresh
  exact ⟨new, by rw [firstOccurrences_append_singleton, if_neg new]⟩

end Records

namespace ChargeConfig

variable {config : ChargeConfig} {portfolio : Portfolio} {period : ChargePeriod}
  {log after : FetchLog}

/-- A run through the loans that ends with a fault does so at a first occurrence, after the requests
for the ones before it.
-/
theorem exists_last_loan {fault : Fault}
    (h
      : (portfolio.loans.foldlM (config.assessLoan portfolio period)
            (begin portfolio.run period)).runAfter log
        = (.error fault, after))
    : ∃ front loan back progress between,
        portfolio.loans = front ++ loan :: back
        ∧ loan.id ∉ front.map (·.id)
        ∧ between = log ++ portfolio.askedFor period log (firstOccurrences front)
        ∧ firstOccurrences (front ++ [loan]) = firstOccurrences front ++ [loan]
        ∧ (config.assessLoan portfolio period progress loan).runAfter between
          = (.error fault, after) := by
  obtain ⟨front, loan, back, progress, between, split, walked, last⟩ :=
    Reading.exists_fault_of_foldlM h
  obtain ⟨verdicts, records⟩ := (config.records_begin portfolio period log).foldlM walked
  rw [List.nil_append, List.nil_append] at records
  have new
      : progress.cache.contains loan.id = false ∧ progress.hasFailed loan.id = false := by
    cases fault with
    | failed error =>
        obtain ⟨_, unknown, fresh, _⟩ := assessLoan_failed last
        exact ⟨unknown, fresh⟩
    | overflowed kind =>
        obtain ⟨unknown, fresh, _⟩ := assessLoan_overflowed last
        exact ⟨unknown, fresh⟩
  obtain ⟨first, extended⟩ := records.firstOccurrences_of_new new.1 new.2
  exact ⟨front, loan, back, progress, between, split, first, records.log_eq, extended, last⟩

/-- A run with a result makes the requests for all first occurrences. -/
theorem log_of_assessment {assessment : Assessment}
    (resolved : config.period.resolve portfolio.today = .ok period)
    (h : (config.assess portfolio).runAfter log = (.ok assessment, after))
    : after = log ++ portfolio.askedFor period log (firstOccurrences portfolio.loans) := by
  obtain ⟨found, _, _, same, records, _⟩ := exists_records h
  cases resolved.symm.trans same
  exact records.log_eq

/-- A run that ends with the error of a loan makes the requests for the first occurrences up to it.
-/
theorem log_of_failed {error : ChargeError}
    (resolved : config.period.resolve portfolio.today = .ok period)
    (h : (config.assess portfolio).runAfter log = (.error (.failed error), after))
    : config.failurePolicy = .failFast
      ∧ ∃ front loan back,
          portfolio.loans = front ++ loan :: back
          ∧ loan.id ∉ front.map (·.id)
          ∧ portfolio.Refuses period
              (log ++ portfolio.askedFor period log (firstOccurrences front)) loan error
          ∧ after
            = log ++ portfolio.askedFor period log (firstOccurrences (front ++ [loan])) := by
  rw [assess, runAfter_assessIn_of_resolved id resolved] at h
  rcases walk
    : (portfolio.loans.foldlM (config.assessLoan portfolio period)
        (begin portfolio.run period)).runAfter log
    with ⟨fault | progress, final⟩
  · rw [walk] at h
    cases h
    obtain ⟨front, loan, back, progress, between, split, new, begun, extended, last⟩ :=
      exists_last_loan walk
    obtain ⟨policy, _, _, build⟩ := assessLoan_failed last
    refine ⟨policy, front, loan, back, split, new, ?_, ?_⟩
    · rw [← begun]
      exact refuses_of_buildAlone build
    · rw [extended, Portfolio.askedFor_append, ← List.append_assoc, ← begun]
      exact log_of_buildAlone (.error error) build
  · -- once all loans are taken up, only an overflow keeps a run from its result
    rw [walk] at h
    obtain ⟨_, records⟩ := (config.records_begin portfolio period log).foldlM walk
    exact absurd (Prod.mk.inj h).1 (concludeIn_ne_failed (.refl _) records.lengths error)

/-- A run never makes other requests than those for the first occurrences, also if it overflows. -/
theorem exists_made_of_overflowed {kind : Overflow}
    (resolved : config.period.resolve portfolio.today = .ok period)
    (h : (config.assess portfolio).runAfter log = (.error (.overflowed kind), after))
    : ∃ made,
        made <+: portfolio.askedFor period log (firstOccurrences portfolio.loans)
        ∧ after = log ++ made := by
  rw [assess, runAfter_assessIn_of_resolved id resolved] at h
  rcases walk
    : (portfolio.loans.foldlM (config.assessLoan portfolio period)
        (begin portfolio.run period)).runAfter log
    with ⟨fault | progress, final⟩
  · rw [walk] at h
    cases h
    obtain ⟨front, loan, back, progress, between, split, _, begun, extended, last⟩ :=
      exists_last_loan walk
    obtain ⟨_, _, built⟩ := assessLoan_overflowed last
    obtain ⟨made, part, same⟩ :=
      exists_made_of_buildAlone config portfolio period loan between
    rw [built] at same
    have first
        : firstOccurrences front ++ [loan] <+: firstOccurrences portfolio.loans := by
      rw [← extended, split, List.append_cons front loan back]
      exact firstOccurrences_prefix _ back
    refine ⟨portfolio.askedFor period log (firstOccurrences front) ++ made, ?_, ?_⟩
    · refine List.IsPrefix.trans ?_ (Portfolio.askedFor_prefix first)
      rw [Portfolio.askedFor_append, ← begun]
      exact (List.prefix_append_right_inj _).mpr part
    · rw [same, begun, List.append_assoc]
  · rw [walk] at h
    obtain ⟨_, records⟩ := (config.records_begin portfolio period log).foldlM walk
    obtain ⟨_, rfl⟩ := Prod.mk.inj h
    exact ⟨_, List.prefix_refl _, records.log_eq⟩

/-- Building a series makes one request for each month in which the loan is running, the latest
first, up to the first one that is answered with an error, which the build then ends with; so the
days asked for go back from the end of the period without a gap and without an overlap, and apart
from overflows both modes make the same requests. A run over a period that is found makes the
requests for the first occurrences of all identifiers whose product is listed, loan by loan, and
ends before only with the error of one of them when the first failure is to end it; a loan that was
summarised or has failed before causes no request.
-/
theorem assess_requests (config : ChargeConfig) (portfolio : Portfolio) (log : FetchLog)
    : (∀ (builder : SummaryBuilder) loan product mode earlier outcome after,
        (builder.build loan product mode).runAfter earlier = (outcome, after)
        → builder.source.Polls earlier (loan.requestsIn builder.period.windows) outcome after
          ∧ ∃ made, after = earlier ++ made ∧ TilesBackFrom builder.period.toDate made)
      ∧ (∀ (builder : SummaryBuilder) loan product earlier,
          (∀ mode kind,
            ((builder.build loan product mode).runAfter earlier).1 ≠ .error (.overflowed kind))
          → ((builder.build loan product .daily).runAfter earlier).2
            = ((builder.build loan product .monthly).runAfter earlier).2)
      ∧ (∀ period progress loan earlier,
          progress.cache.contains loan.id = true ∨ progress.hasFailed loan.id = true
          → ((config.assessLoan portfolio period progress loan).runAfter earlier).2 = earlier)
      ∧ (∀ error,
          config.period.resolve portfolio.today = .error error
          → ((config.assess portfolio).runAfter log).2 = log)
      ∧ ∀ period,
          config.period.resolve portfolio.today = .ok period
          → (∀ assessment after,
              (config.assess portfolio).runAfter log = (.ok assessment, after)
              → after = log ++ portfolio.askedFor period log (firstOccurrences portfolio.loans))
            ∧ (∀ error after,
                (config.assess portfolio).runAfter log = (.error (.failed error), after)
                → config.failurePolicy = .failFast
                  ∧ ∃ front loan back,
                      portfolio.loans = front ++ loan :: back
                      ∧ loan.id ∉ front.map (·.id)
                      ∧ portfolio.Refuses period
                          (log ++ portfolio.askedFor period log (firstOccurrences front)) loan error
                      ∧ after
                        = log
                          ++ portfolio.askedFor period log (firstOccurrences (front ++ [loan])))
            ∧ ∀ kind after,
                (config.assess portfolio).runAfter log = (.error (.overflowed kind), after)
                → ∃ made,
                    made <+: portfolio.askedFor period log (firstOccurrences portfolio.loans)
                    ∧ after = log ++ made := by
  refine ⟨?_, ?_, ?_, ?_, ?_⟩
  · intro builder loan product mode earlier outcome after run
    have polls := SummaryBuilder.build_polls run
    obtain ⟨made, part, same⟩ := polls.exists_made
    exact ⟨polls, made, same, Loan.requestsIn_tilesBackFrom
      (part.trans (builder.source.asked_prefix _ _))⟩
  · intro builder loan product earlier fits
    have made (mode : SummaryMode)
        : ((builder.build loan product mode).runAfter earlier).2
          = earlier ++ builder.source.asked earlier (loan.requestsIn builder.period.windows) :=
      (SummaryBuilder.build_polls rfl).after_eq (fits mode)
    rw [made, made]
  · intro period progress loan earlier seen
    cases known : progress.cache.contains loan.id with
    | true => rw [runAfter_assessLoan_of_contains known]
    | false =>
        have failed : progress.hasFailed loan.id = true := by simpa [known] using seen
        rw [runAfter_assessLoan_of_hasFailed known failed]
  · intro error unresolved
    rw [assess, runAfter_assessIn_of_unresolved id unresolved]
  · intro period resolved
    exact ⟨fun _ _ => log_of_assessment resolved, fun _ _ => log_of_failed resolved,
      fun _ _ => exists_made_of_overflowed resolved⟩

/-- In the sample portfolio three identifiers have a listed product. The source is asked for the two
months of two of them and for one month of the loan that cannot be read, which is the last request
when the first failure is to end the run.
-/
theorem assess_requests_sample
    : let builder : SummaryBuilder := ⟨Sample.quarter, Sample.ledger.source, .weightedSum, 2⟩
      (∃ series after,
        (builder.build Sample.loan Sample.product .monthly).runAfter [] = (.ok series, after)
        ∧ TilesBackFrom Sample.quarter.toDate after
        ∧ ((builder.build Sample.loan Sample.product .daily).runAfter []).2 = after)
      ∧ Sample.collecting.period.resolve Sample.portfolio.today = .ok Sample.quarter
      ∧ (∃ assessment after,
          (Sample.collecting.assess Sample.portfolio).runAfter [] = (.ok assessment, after)
          ∧ (after.map fun request => (request.loan, request.first.month))
            = [(7, .march), (7, .february), (9, .march), (8, .march), (8, .february)])
      ∧ quarterly.period.resolve Sample.portfolio.today = .ok Sample.quarter
      ∧ ∃ after front loan back,
          (quarterly.assess Sample.portfolio).runAfter []
            = (.error (.failed (.dataAccessFailure 9 "closed")), after)
          ∧ Sample.portfolio.loans = front ++ loan :: back
          ∧ after
            = Sample.portfolio.askedFor Sample.quarter [] (firstOccurrences (front ++ [loan])) := by
  intro builder
  have collecting
      : Sample.collecting.period.resolve Sample.portfolio.today = .ok Sample.quarter := by
    decide +kernel
  have failing : quarterly.period.resolve Sample.portfolio.today = .ok Sample.quarter := by
    decide +kernel
  have requests := assess_requests Sample.collecting Sample.portfolio []
  refine ⟨?_, collecting, ?_, failing, ?_⟩
  · have fits
        : ∀ mode kind,
            ((builder.build Sample.loan Sample.product mode).runAfter []).1
            ≠ .error (.overflowed kind) := by
      intro mode kind
      cases mode <;> cases kind <;> decide +kernel
    have same := requests.2.1 _ _ _ _ fits
    have built
        : ((builder.build Sample.loan Sample.product .monthly).runAfter
            []).1.toOption.isSome
          = true := by
      decide +kernel
    rcases run : (builder.build Sample.loan Sample.product .monthly).runAfter []
      with ⟨fault | series, after⟩
    · rw [run] at built
      cases built
    · obtain ⟨_, made, all, tiles⟩ := requests.1 _ _ _ _ _ _ _ run
      cases all
      rw [run] at same
      exact ⟨series, made, rfl, tiles, same⟩
  · have finished
        : ((Sample.collecting.assess Sample.portfolio).runAfter []).1.toOption.isSome = true := by
      decide +kernel
    rcases run : (Sample.collecting.assess Sample.portfolio).runAfter []
      with ⟨fault | assessment, after⟩
    · rw [run] at finished
      cases finished
    · refine ⟨assessment, after, rfl, ?_⟩
      rw [(requests.2.2.2.2 _ collecting).1 assessment after run]
      decide +kernel
  · have failed
        : ((quarterly.assess Sample.portfolio).runAfter []).1
          = .error (.failed (.dataAccessFailure 9 "closed")) := by
      decide +kernel
    rcases run : (quarterly.assess Sample.portfolio).runAfter [] with ⟨outcome, after⟩
    rw [run] at failed
    subst failed
    obtain ⟨_, front, loan, back, split, _, _, made⟩ :=
      ((assess_requests quarterly Sample.portfolio []).2.2.2.2 _ failing).2.1 _ _ run
    exact ⟨after, front, loan, back, rfl, split, made⟩

end ChargeConfig

end ChargeBasis

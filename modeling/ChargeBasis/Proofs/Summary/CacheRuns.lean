import ChargeBasis.Proofs.Summary.Cache
import ChargeBasis.Proofs.Summary.Failures
import ChargeBasis.Proofs.Summary.Reconstruction

/-!
Runs of calls on a cache. The calls may ask for any loans in any order, each with a builder, a
product and a mode of its own, and any of them may fail. What the cache holds of a loan is the
series of the first call for it that could be built.
-/

namespace ChargeBasis

/-- A call on a cache: the builder, the loan, the product and the mode that are given, and the
requests that were made of the builder's source before.
-/
structure CacheCall where
  builder : SummaryBuilder
  loan : Loan
  product : LoanProduct
  mode : SummaryMode
  log : FetchLog

namespace CacheCall

/-- The series of the call built without a cache, and all requests made by then. -/
def buildAlone (call : CacheCall) : Except Fault BalanceSeries × FetchLog :=
  (call.builder.build call.loan call.product call.mode).runAfter call.log

/-- What the call does to a cache: the answer, the cache after it, and all requests made by then. -/
def run (call : CacheCall) (cache : SummaryCache)
    : (Except Fault BalanceSeries × SummaryCache) × FetchLog :=
  (SummaryCache.getOrCompute call.builder call.loan call.product call.mode).runAfter cache call.log

/-- The answer to the call on a cache, and all requests made by then. -/
def answer (call : CacheCall) (cache : SummaryCache) : Except Fault BalanceSeries × FetchLog :=
  ((call.run cache).1.1, (call.run cache).2)

/-- The cache after the call, whatever the answer. -/
def leaves (call : CacheCall) (cache : SummaryCache) : SummaryCache :=
  (call.run cache).1.2

/-- What the call adds for a loan if there is nothing of the loan yet. -/
def built? (call : CacheCall) (loan : LoanId) : Option BalanceSeries :=
  if call.loan.id = loan then call.buildAlone.1.toOption else none

/-- How a call is served: with the series that is kept, with one that is built and kept from then
on, or with the fault that it cannot be built for.
-/
inductive ServedBy (call : CacheCall) (cache : SummaryCache) : Prop
  | kept (series : BalanceSeries) (found : cache.get? call.loan.id = some series)
    (answer : call.answer cache = (.ok series, call.log)) (leaves : call.leaves cache = cache)
  | built (series : BalanceSeries) (after : FetchLog)
    (absent : cache.get? call.loan.id = none) (built : call.buildAlone = (.ok series, after))
    (answer : call.answer cache = (.ok series, after))
    (leaves : call.leaves cache = cache.insert series)
  | failed (fault : Fault) (after : FetchLog) (absent : cache.get? call.loan.id = none)
    (built : call.buildAlone = (.error fault, after))
    (answer : call.answer cache = (.error fault, after)) (leaves : call.leaves cache = cache)

/-- Every call is served in one of the three ways. -/
theorem servedBy (call : CacheCall) (cache : SummaryCache)
    : call.ServedBy cache := by
  cases found : cache.get? call.loan.id with
  | some series =>
      have served : call.run cache = ((.ok series, cache), call.log) :=
        SummaryCache.runAfter_getOrCompute_of_get? found
      exact .kept series found (by rw [answer, served]) (by rw [leaves, served])
  | none =>
      have served := SummaryCache.runAfter_getOrCompute_of_absent found call.builder call.product
        call.mode call.log
      rcases built : call.buildAlone with ⟨fault | series, after⟩
      · have failed : call.run cache = ((.error fault, cache), after) := by
          rw [run, served, ← buildAlone, built]
        exact .failed fault after found built (by rw [answer, failed]) (by rw [leaves, failed])
      · have kept : call.run cache = ((.ok series, cache.insert series), after) := by
          rw [run, served, ← buildAlone, built]
        exact .built series after found built (by rw [answer, kept]) (by rw [leaves, kept])

/-- A call that fails leaves the cache as it was. -/
theorem leaves_of_failed {call : CacheCall} {cache : SummaryCache} {fault : Fault}
    (failure : (call.answer cache).1 = .error fault)
    : call.leaves cache = cache := by
  cases call.servedBy cache with
  | kept _ _ _ leaves => exact leaves
  | built _ _ _ _ answer _ =>
      rw [answer] at failure
      cases failure
  | failed _ _ _ _ _ leaves => exact leaves

/-- Without a series of the loan a call is answered as if there were no cache. -/
theorem answer_of_absent {call : CacheCall} {cache : SummaryCache}
    (absent : cache.get? call.loan.id = none)
    : call.answer cache = call.buildAlone := by
  cases call.servedBy cache with
  | kept series found _ _ => cases absent.symm.trans found
  | built series after _ built answer _ => exact answer.trans built.symm
  | failed fault after _ built answer _ => exact answer.trans built.symm

theorem loan_of_buildAlone {call : CacheCall} {series : BalanceSeries} {after : FetchLog}
    (built : call.buildAlone = (.ok series, after))
    : series.loan = call.loan.id := by
  obtain ⟨figures, _, rfl⟩ := SummaryBuilder.exists_figures built
  rfl

end CacheCall

namespace SummaryCache

variable {cache : SummaryCache} {calls : List CacheCall} {loan : LoanId}

-----------------------------------------------------------------------------------------
-- Lookups
-----------------------------------------------------------------------------------------

/-- In ascending order each series is the one that its loan is looked up to. -/
theorem mem_summaries_iff (ascending : Ascending cache.summaries) {series : BalanceSeries}
    : series ∈ cache.summaries ↔ cache.get? series.loan = some series := by
  constructor
  · intro member
    obtain ⟨front, back, split⟩ := List.append_of_mem member
    rw [Ascending, split, List.pairwise_append] at ascending
    rw [get?, split, List.find?_append, List.find?_eq_none.mpr, Option.none_or,
      List.find?_cons_of_pos (by simp)]
    intro other earlier
    have less := ascending.2.2 other earlier series (by simp)
    simpa using UInt64.ne_of_lt less
  · exact List.mem_of_find?_eq_some

/-- A series of a loan without one is looked up to from then on, and no other lookup changes; by
induction over the series before it.
-/
theorem find?_insertSeries {new : BalanceSeries} {summaries : List BalanceSeries}
    (absent : summaries.find? (fun series => series.loan == new.loan) = none) (loan : LoanId)
    : (insertSeries new summaries).find? (fun series => series.loan == loan)
      = if new.loan = loan then some new
        else summaries.find? fun series => series.loan == loan := by
  induction summaries with
  | nil => by_cases same : new.loan = loan <;> simp [insertSeries, same]
  | cons series rest ih =>
      rw [List.find?_eq_none] at absent
      have other : series.loan ≠ new.loan := by simpa using absent series (by simp)
      have tail := ih (List.find?_eq_none.mpr fun s member => absent s (by simp [member]))
      unfold insertSeries
      split
      · by_cases same : new.loan = loan <;> simp [same]
      · by_cases found : series.loan = loan
        · rw [List.find?_cons_of_pos (by simp [found]), List.find?_cons_of_pos (by simp [found]),
            if_neg fun same => other (found.trans same.symm)]
        · rw [List.find?_cons_of_neg (by simp [found]), List.find?_cons_of_neg (by simp [found]),
            tail]

theorem get?_insert {series : BalanceSeries} (absent : cache.get? series.loan = none)
    (loan : LoanId)
    : (cache.insert series).get? loan
      = if series.loan = loan then some series else cache.get? loan :=
  find?_insertSeries absent loan

/-- Every series belongs to one of the two categories. -/
theorem loanCount_add_loanCount (cache : SummaryCache)
    : cache.loanCount true + cache.loanCount false = cache.size := by
  have other
      : (fun series : BalanceSeries => series.isDemandLoan == false)
        = fun series => !(series.isDemandLoan == true) := by
    funext series
    cases series.isDemandLoan <;> rfl
  rw [loanCount, loanCount, ofCategory, ofCategory, size, ← List.countP_eq_length_filter,
    ← List.countP_eq_length_filter, other,
    List.length_eq_countP_add_countP fun series : BalanceSeries => series.isDemandLoan == true]
  simp

-----------------------------------------------------------------------------------------
-- Runs
-----------------------------------------------------------------------------------------

/-- The cache of a period after several calls, one after another. -/
def afterCalls (period : ChargePeriod) (calls : List CacheCall) : SummaryCache :=
  calls.foldl (fun cache call => call.leaves cache) (forPeriod period)

/-- The series of the first call for a loan that can be built. -/
def firstBuilt? (calls : List CacheCall) (loan : LoanId) : Option BalanceSeries :=
  calls.findSome? fun call => call.built? loan

theorem afterCalls_snoc (period : ChargePeriod) (calls : List CacheCall) (call : CacheCall)
    : afterCalls period (calls ++ [call]) = call.leaves (afterCalls period calls) := by
  simp [afterCalls, List.foldl_append]

theorem firstBuilt?_snoc (calls : List CacheCall) (call : CacheCall) (loan : LoanId)
    : firstBuilt? (calls ++ [call]) loan = (firstBuilt? calls loan).or (call.built? loan) := by
  cases built : call.built? loan <;> simp [firstBuilt?, List.findSome?_append, built]

/-- There is no series of a loan exactly if none of the calls for it can be built. -/
theorem firstBuilt?_eq_none_iff
    : firstBuilt? calls loan = none
      ↔ ∀ call ∈ calls, call.loan.id = loan → ∃ fault, call.buildAlone.1 = .error fault := by
  rw [firstBuilt?, List.findSome?_eq_none_iff]
  refine forall₂_congr fun call _ => ?_
  by_cases same : call.loan.id = loan
  · cases built : call.buildAlone.1 <;> simp [CacheCall.built?, same, built, Except.toOption]
  · simp [CacheCall.built?, same]

/-- The cache holds what was built first for each loan among some calls. -/
structure HoldsFirstBuilt (cache : SummaryCache) (calls : List CacheCall) : Prop where
  counted : cache.computations = cache.size
  ascending : Ascending cache.summaries
  get?_eq : ∀ loan, cache.get? loan = firstBuilt? calls loan

theorem holdsFirstBuilt_forPeriod (period : ChargePeriod)
    : (forPeriod period).HoldsFirstBuilt [] where
  counted := rfl
  ascending := List.Pairwise.nil
  get?_eq _ := rfl

/-- The first series of a loan is kept and counted. -/
theorem HoldsFirstBuilt.insert (holds : cache.HoldsFirstBuilt calls) {call : CacheCall}
    {series : BalanceSeries} {after : FetchLog} (absent : cache.get? call.loan.id = none)
    (built : call.buildAlone = (.ok series, after))
    : (cache.insert series).HoldsFirstBuilt (calls ++ [call]) := by
  have owner := CacheCall.loan_of_buildAlone built
  have missing : cache.get? series.loan = none := owner.symm ▸ absent
  refine ⟨by rw [size_insert, ← holds.counted]; rfl, ?_, ?_⟩
  · refine ascending_insertSeries holds.ascending fun member => ?_
    rw [← contains_iff, contains, missing] at member
    cases member
  · intro loan
    rw [get?_insert missing, firstBuilt?_snoc, ← holds.get?_eq, CacheCall.built?, owner, built]
    split
    · next same => rw [← same, absent, Option.none_or]; rfl
    · rw [Option.or_none]

/-- A call whose loan has a series, or whose series cannot be built, changes nothing. -/
theorem HoldsFirstBuilt.snoc_of_redundant (holds : cache.HoldsFirstBuilt calls) {call : CacheCall}
    (redundant
      : (cache.get? call.loan.id).isSome = true ∨ call.buildAlone.1.toOption = none)
    : cache.HoldsFirstBuilt (calls ++ [call]) := by
  refine ⟨holds.counted, holds.ascending, ?_⟩
  intro loan
  rw [firstBuilt?_snoc, ← holds.get?_eq, CacheCall.built?]
  split
  · next same =>
    rcases redundant with known | failed
    · obtain ⟨series, found⟩ := Option.isSome_iff_exists.mp known
      rw [← same, found, Option.some_or]
    · rw [failed, Option.or_none]
  · rw [Option.or_none]

/-- A call keeps the invariant, by cases on how it is served. -/
theorem HoldsFirstBuilt.leaves (holds : cache.HoldsFirstBuilt calls) (call : CacheCall)
    : (call.leaves cache).HoldsFirstBuilt (calls ++ [call]) := by
  cases call.servedBy cache with
  | kept series found _ leaves =>
      rw [leaves]
      exact holds.snoc_of_redundant (.inl (by rw [found]; rfl))
  | built series after absent built _ leaves =>
      rw [leaves]
      exact holds.insert absent built
  | failed fault after absent built _ leaves =>
      rw [leaves]
      exact holds.snoc_of_redundant (.inr (by rw [built]; rfl))

theorem holdsFirstBuilt_afterCalls (period : ChargePeriod) (calls : List CacheCall)
    : (afterCalls period calls).HoldsFirstBuilt calls := by
  induction calls using List.reverseRecOn with
  | nil => exact holdsFirstBuilt_forPeriod period
  | append_singleton calls call ih =>
      rw [afterCalls_snoc]
      exact ih.leaves call

/-- A loan has no series if a call for it failed and none of those since can be built. -/
theorem get?_afterCalls_of_failed {period : ChargePeriod} {front between : List CacheCall}
    {failed : CacheCall} {fault : Fault}
    (failure : (failed.answer (afterCalls period front)).1 = .error fault)
    (others
      : ∀ call ∈ between,
          call.loan.id = failed.loan.id → ∃ fault, call.buildAlone.1 = .error fault)
    : (afterCalls period (front ++ failed :: between)).get? failed.loan.id = none := by
  rw [(holdsFirstBuilt_afterCalls period _).get?_eq, firstBuilt?_eq_none_iff]
  intro call member same
  cases failed.servedBy (afterCalls period front) with
  | kept _ _ answer _ =>
      rw [answer] at failure
      cases failure
  | built _ _ _ _ answer _ =>
      rw [answer] at failure
      cases failure
  | failed fault _ absent built _ _ =>
      rw [(holdsFirstBuilt_afterCalls period front).get?_eq, firstBuilt?_eq_none_iff] at absent
      rcases List.mem_append.mp member with earlier | later
      · exact absent call earlier same
      · rcases List.mem_cons.mp later with rfl | later
        · exact ⟨fault, by rw [built]⟩
        · exact others call later same

/-- Whatever calls were made on a new cache, it has built as many series as it holds and holds each
for one of the categories; a call for a loan with a series gets the very series, makes no request
and changes nothing; a call that fails changes nothing either, and the next call for its loan builds
anew; and the series are, in ascending order of loans, those that were built first for each.
-/
theorem afterCalls_keep_first_built (period : ChargePeriod) (calls : List CacheCall)
    : (afterCalls period calls).computations = (afterCalls period calls).size
      ∧ (afterCalls period calls).size
        = (afterCalls period calls).loanCount true + (afterCalls period calls).loanCount false
      ∧ (∀ (call : CacheCall) (series : BalanceSeries),
          (afterCalls period calls).get? call.loan.id = some series
          → call.answer (afterCalls period calls) = (.ok series, call.log)
            ∧ afterCalls period (calls ++ [call]) = afterCalls period calls)
      ∧ (∀ (call : CacheCall) (fault : Fault),
          (call.answer (afterCalls period calls)).1 = .error fault
          → afterCalls period (calls ++ [call]) = afterCalls period calls)
      ∧ (∀ (front between : List CacheCall) (failed later : CacheCall) (fault : Fault),
          calls = front ++ failed :: between
          → (failed.answer (afterCalls period front)).1 = .error fault
          → (∀ call ∈ between,
              call.loan.id = failed.loan.id → ∃ fault, call.buildAlone.1 = .error fault)
          → later.loan.id = failed.loan.id
          → later.answer (afterCalls period calls) = later.buildAlone)
      ∧ Ascending (afterCalls period calls).summaries
      ∧ ∀ series,
          series ∈ (afterCalls period calls).summaries
          ↔ firstBuilt? calls series.loan = some series := by
  have holds := holdsFirstBuilt_afterCalls period calls
  refine ⟨holds.counted, (loanCount_add_loanCount _).symm, ?_, ?_, ?_, holds.ascending, ?_⟩
  · intro call series found
    rw [afterCalls_snoc]
    cases call.servedBy (afterCalls period calls) with
    | kept other same answer leaves =>
        cases found.symm.trans same
        exact ⟨answer, leaves⟩
    | built _ _ absent _ _ _ => cases absent.symm.trans found
    | failed _ _ absent _ _ _ => cases absent.symm.trans found
  · intro call fault failure
    rw [afterCalls_snoc]
    exact CacheCall.leaves_of_failed failure
  · intro front between failed later fault split failure others same
    apply CacheCall.answer_of_absent
    rw [same, split]
    exact get?_afterCalls_of_failed failure others
  · intro series
    rw [mem_summaries_iff holds.ascending, holds.get?_eq]

end SummaryCache

namespace Sample

/-- A call for the sample loan, which can be built. -/
def built : CacheCall :=
  ⟨⟨quarter, ledger.source, .weightedSum, 2⟩, loan, product, .daily, []⟩

/-- A call for a loan that the ledger does not give out. -/
def refused : CacheCall :=
  { built with loan := { loan with id := 9 } }

/-- A call for the sample loan in another mode, as a term loan and with an empty ledger. -/
def repeated : CacheCall :=
  { built with
    builder := ⟨quarter, Ledger.empty.source, .dailyAverage, 0⟩
    product := { product with category := .term }
    mode := .monthly }

/-- A call for the loan that was refused, with an empty ledger. -/
def renewed : CacheCall :=
  { repeated with loan := { loan with id := 9 } }

end Sample

/-- A loan that was refused is built anew with another ledger, while the sample loan keeps the
series that was built first.
-/
theorem SummaryCache.afterCalls_keep_first_built_sample
    : let calls := [Sample.built, Sample.refused, Sample.repeated]
      (afterCalls Sample.quarter calls).computations = 1
      ∧ (∃ series,
          Sample.built.buildAlone.1 = .ok series
          ∧ Sample.repeated.answer (afterCalls Sample.quarter calls) = (.ok series, []))
      ∧ (Sample.refused.answer (afterCalls Sample.quarter [Sample.built])).1
        = .error (.failed (.dataAccessFailure 9 "closed"))
      ∧ Sample.renewed.answer (afterCalls Sample.quarter calls) = Sample.renewed.buildAlone
      ∧ Sample.renewed.buildAlone.1.toOption.isSome = true := by
  intro calls
  obtain ⟨_, _, kept, _, anew, _, _⟩ := afterCalls_keep_first_built Sample.quarter calls
  have refusal
      : (Sample.refused.answer (afterCalls Sample.quarter [Sample.built])).1
        = .error (.failed (.dataAccessFailure 9 "closed")) := by
    decide +kernel
  refine ⟨by decide +kernel, ?_, refusal, ?_, by decide +kernel⟩
  · have found
        : ((afterCalls Sample.quarter calls).get? 7).isSome = true
          ∧ (afterCalls Sample.quarter calls).get? 7 = Sample.built.buildAlone.1.toOption := by
      decide +kernel
    obtain ⟨series, own⟩ := Option.isSome_iff_exists.mp found.1
    refine ⟨series, ?_, (kept Sample.repeated series own).1⟩
    rcases alone : Sample.built.buildAlone.1 with fault | other
    · rw [own, alone] at found
      cases found.2
    · rw [own, alone] at found
      exact congrArg Except.ok (Option.some.inj found.2).symm
  · refine anew [Sample.built] [Sample.repeated] Sample.refused Sample.renewed _ rfl refusal ?_ rfl
    intro call member same
    cases List.mem_singleton.mp member
    cases same

end ChargeBasis

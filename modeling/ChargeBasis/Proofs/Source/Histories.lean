import ChargeBasis.Proofs.Calendar.DayNumber
import ChargeBasis.Proofs.Source.Reading

/-!
Histories of a ledger. A loan that was ever marked is refused with the reason of its last mark; for
any other loan a request is answered with what was recorded for it on the days asked for, in the
order of recording. So the answers for ranges of days that follow one another make up the answer for
the whole range, and nothing that is done to other loans shows in them.
-/

namespace ChargeBasis

namespace Ledger

-----------------------------------------------------------------------------------------
-- Entries
-----------------------------------------------------------------------------------------

/-- One thing that is done to a ledger. -/
inductive Entry where
  | record (transaction : LoanTransaction)
  | recordAll (transactions : List LoanTransaction)
  | mark (loan : LoanId) (reason : String)
  deriving DecidableEq

/-- The ledger with one more entry. -/
def enter (ledger : Ledger) : Entry → Ledger
  | .record t => ledger.record t
  | .recordAll ts => ledger.recordAll ts
  | .mark loan reason => ledger.markUnavailable loan reason

/-- The ledger that entries have made of the empty one. -/
def after (entries : List Entry) : Ledger :=
  entries.foldl enter empty

namespace Entry

/-- The transactions that an entry records. -/
def recorded : Entry → List LoanTransaction
  | record t => [t]
  | recordAll ts => ts
  | mark _ _ => []

/-- The reason that an entry marks a loan for. -/
def reasonFor? (loan : LoanId) : Entry → Option String
  | mark marked reason => if marked = loan then some reason else none
  | _ => none

/-- What an entry does to a loan, one transaction at a time. -/
def about (loan : LoanId) : Entry → List Entry
  | record t => if t.loan = loan then [record t] else []
  | recordAll ts => (ts.filter fun t => t.loan == loan).map record
  | mark marked reason => if marked = loan then [mark marked reason] else []

theorem reasonFor?_eq_some_iff {loan : LoanId} {reason : String} {entry : Entry}
    : entry.reasonFor? loan = some reason ↔ entry = mark loan reason := by
  cases entry with
  | record t => simp [reasonFor?]
  | recordAll ts => simp [reasonFor?]
  | mark marked other => by_cases same : marked = loan <;> simp [reasonFor?, same]

/-- Nothing that an entry records for a loan is lost when only the loan is looked at. -/
theorem recorded_about (loan : LoanId) (entry : Entry)
    : (entry.about loan).flatMap recorded = entry.recorded.filter fun t => t.loan == loan := by
  cases entry with
  | record t => by_cases own : t.loan = loan <;> simp [about, recorded, own]
  | recordAll ts => simp [about, recorded, List.flatMap_map]
  | mark marked reason => by_cases own : marked = loan <;> simp [about, recorded, own]

/-- Nor is a mark. -/
theorem filterMap_about (loan : LoanId) (entry : Entry)
    : (entry.about loan).filterMap (reasonFor? loan) = (entry.reasonFor? loan).toList := by
  cases entry with
  | record t => by_cases own : t.loan = loan <;> simp [about, reasonFor?, own]
  | recordAll ts => simp [about, reasonFor?, List.filterMap_map, Function.comp_def]
  | mark marked reason => by_cases own : marked = loan <;> simp [about, reasonFor?, own]

end Entry

variable {entries front back others : List Entry} {loan : LoanId} {reason : String}

-----------------------------------------------------------------------------------------
-- Runs
-----------------------------------------------------------------------------------------

theorem transactionsOf_enter (ledger : Ledger) (entry : Entry) (loan : LoanId)
    : (ledger.enter entry).transactionsOf loan
      = ledger.transactionsOf loan ++ entry.recorded.filter fun t => t.loan == loan := by
  cases entry with
  | record t => exact transactionsOf_recordAll ledger [t] loan
  | recordAll ts => exact transactionsOf_recordAll ledger ts loan
  | mark marked reason => exact (List.append_nil _).symm

/-- A mark comes before the earlier ones of its loan. -/
theorem lookup_enter (ledger : Ledger) (entry : Entry) (loan : LoanId)
    : (ledger.enter entry).unavailable.lookup loan
      = (entry.reasonFor? loan).or (ledger.unavailable.lookup loan) := by
  cases entry with
  | record t => rfl
  | recordAll ts => rfl
  | mark marked reason =>
      by_cases same : marked = loan
      · simp [enter, markUnavailable, Entry.reasonFor?, same]
      · have other : (loan == marked) = false := beq_false_of_ne (Ne.symm same)
        simp [enter, markUnavailable, Entry.reasonFor?, same, List.lookup_cons, other]

theorem after_snoc (entries : List Entry) (entry : Entry)
    : after (entries ++ [entry]) = (after entries).enter entry := by
  simp [after, List.foldl_append]

/-- The transactions of a loan are the recorded ones of the loan in the order of recording. -/
theorem transactionsOf_after (entries : List Entry) (loan : LoanId)
    : (after entries).transactionsOf loan
      = (entries.flatMap Entry.recorded).filter fun t => t.loan == loan := by
  induction entries using List.reverseRecOn with
  | nil => rfl
  | append_singleton entries entry ih =>
      rw [after_snoc, transactionsOf_enter, ih, List.flatMap_append, List.filter_append]
      simp

/-- The reasons that entries mark a loan for, in order. -/
def reasonsFor (entries : List Entry) (loan : LoanId) : List String :=
  entries.filterMap (Entry.reasonFor? loan)

/-- A loan is refused for the last reason that it was marked for. -/
theorem lookup_after (entries : List Entry) (loan : LoanId)
    : (after entries).unavailable.lookup loan = (reasonsFor entries loan).getLast? := by
  induction entries using List.reverseRecOn with
  | nil => rfl
  | append_singleton entries entry ih =>
      rw [after_snoc, lookup_enter, ih, reasonsFor, reasonsFor, List.filterMap_append,
        List.getLast?_append]
      cases given : entry.reasonFor? loan <;> simp [given]

theorem reasonsFor_eq_nil (unmarked : ∀ other, Entry.mark loan other ∉ entries)
    : reasonsFor entries loan = [] := by
  rw [reasonsFor, List.filterMap_eq_nil_iff]
  intro entry member
  rw [Option.eq_none_iff_forall_ne_some]
  intro other given
  exact unmarked other (Entry.reasonFor?_eq_some_iff.mp given ▸ member)

-----------------------------------------------------------------------------------------
-- Answers
-----------------------------------------------------------------------------------------

/-- What entries record for a loan on the days from a first to a last one. -/
def recordedOn (entries : List Entry) (loan : LoanId) (first last : Date) : List LoanTransaction :=
  (entries.flatMap Entry.recorded).filter fun t =>
    t.loan == loan && (first ≤ t.date && t.date ≤ last)

/-- The answer to a request: the loan's last mark, or what was recorded. -/
theorem answer_after (entries : List Entry) (loan : LoanId) (first last : Date)
    : (after entries).answer ⟨loan, first, last⟩
      = match (reasonsFor entries loan).getLast? with
        | some reason => .error (.dataAccessFailure loan reason)
        | none => .ok (recordedOn entries loan first last) := by
  rw [answer, lookup_after, transactionsOf_after, List.filter_filter]
  cases (reasonsFor entries loan).getLast? with
  | none => simp only [recordedOn, Bool.and_comm]
  | some reason => rfl

theorem answer_of_last_mark (later : ∀ other, Entry.mark loan other ∉ back) (first last : Date)
    : (after (front ++ .mark loan reason :: back)).answer ⟨loan, first, last⟩
      = .error (.dataAccessFailure loan reason) := by
  have reasons
      : reasonsFor (front ++ .mark loan reason :: back) loan
        = reasonsFor front loan ++ [reason] := by
    have marks : (Entry.mark loan reason).reasonFor? loan = some reason := if_pos rfl
    rw [reasonsFor, List.filterMap_append, List.filterMap_cons_some marks]
    exact congrArg (_ ++ reason :: ·) (reasonsFor_eq_nil later)
  rw [answer_after, reasons, List.getLast?_concat]

theorem answer_of_unmarked (unmarked : ∀ other, Entry.mark loan other ∉ entries)
    (first last : Date)
    : (after entries).answer ⟨loan, first, last⟩ = .ok (recordedOn entries loan first last) := by
  rw [answer_after, reasonsFor_eq_nil unmarked]
  rfl

-----------------------------------------------------------------------------------------
-- Other loans
-----------------------------------------------------------------------------------------

theorem recordedOn_about (entries : List Entry) (loan : LoanId) (first last : Date)
    : recordedOn (entries.flatMap (Entry.about loan)) loan first last
      = recordedOn entries loan first last := by
  have own
      : (entries.flatMap (Entry.about loan)).flatMap Entry.recorded
        = (entries.flatMap Entry.recorded).filter fun t => t.loan == loan := by
    rw [List.flatMap_assoc, List.filter_flatMap]
    exact List.flatMap_congr fun entry _ => entry.recorded_about loan
  rw [recordedOn, own, List.filter_filter, recordedOn]
  apply List.filter_congr
  intro t _
  cases t.loan == loan <;> simp

theorem reasonsFor_about (entries : List Entry) (loan : LoanId)
    : reasonsFor (entries.flatMap (Entry.about loan)) loan = reasonsFor entries loan := by
  rw [reasonsFor, List.filterMap_flatMap, reasonsFor, List.filterMap_eq_flatMap_toList]
  exact List.flatMap_congr fun entry _ => entry.filterMap_about loan

/-- Entries that do the same to a loan leave the same answers for it. -/
theorem answer_congr
    (same : entries.flatMap (Entry.about loan) = others.flatMap (Entry.about loan))
    (first last : Date)
    : (after others).answer ⟨loan, first, last⟩ = (after entries).answer ⟨loan, first, last⟩ := by
  rw [answer_after, answer_after, ← reasonsFor_about others, ← recordedOn_about others, ← same,
    reasonsFor_about, recordedOn_about]

-----------------------------------------------------------------------------------------
-- Ranges of days
-----------------------------------------------------------------------------------------

/-- Ranges of days that follow one another from a first day to a last one. Some of them may be
empty; a range whose last day comes before its first one is.
-/
inductive Successive : Date → Date → List (Date × Date) → Prop
  | whole (first last : Date) : Successive first last [(first, last)]
  | cut {first last day next : Date} {ranges : List (Date × Date)}
    (follows : day.next? = some next) (after : first ≤ next) (before : day ≤ last)
    (rest : Successive next last ranges)
    : Successive first last ((first, day) :: ranges)

/-- What is recorded on some days of a range is what is recorded on the range that they make up. -/
theorem filter_recordedOn {first last partFirst partLast : Date} (days : Date → Prop)
    [DecidablePred days]
    (part : ∀ d, days d ∧ first ≤ d ∧ d ≤ last ↔ partFirst ≤ d ∧ d ≤ partLast)
    (entries : List Entry) (loan : LoanId)
    : (recordedOn entries loan first last).filter (fun t => days t.date)
      = recordedOn entries loan partFirst partLast := by
  rw [recordedOn, recordedOn, List.filter_filter]
  apply List.filter_congr
  intro t _
  rw [Bool.and_left_comm, ← Bool.decide_and, ← Bool.decide_and, ← Bool.decide_and]
  simp only [part]

/-- A day on which a range is cut divides what is recorded on the range. -/
theorem recordedOn_cut {first last day next : Date} (follows : day.next? = some next)
    (after : first ≤ next) (before : day ≤ last) (entries : List Entry) (loan : LoanId)
    : (recordedOn entries loan first day ++ recordedOn entries loan next last).Perm
        (recordedOn entries loan first last) := by
  have number := Date.dayNumber_of_next? follows
  have lower : first.dayNumber ≤ next.dayNumber := after
  have upper : day.dayNumber ≤ last.dayNumber := before
  have front (d : Date) : d ≤ day ∧ first ≤ d ∧ d ≤ last ↔ first ≤ d ∧ d ≤ day := by
    change d.dayNumber ≤ day.dayNumber ∧ first.dayNumber ≤ d.dayNumber
        ∧ d.dayNumber ≤ last.dayNumber
      ↔ first.dayNumber ≤ d.dayNumber ∧ d.dayNumber ≤ day.dayNumber
    omega
  have back (d : Date) : ¬d ≤ day ∧ first ≤ d ∧ d ≤ last ↔ next ≤ d ∧ d ≤ last := by
    change ¬d.dayNumber ≤ day.dayNumber ∧ first.dayNumber ≤ d.dayNumber
        ∧ d.dayNumber ≤ last.dayNumber
      ↔ next.dayNumber ≤ d.dayNumber ∧ d.dayNumber ≤ last.dayNumber
    omega
  rw [← filter_recordedOn (· ≤ day) front, ← filter_recordedOn (¬ · ≤ day) back]
  simpa using List.filter_append_perm (fun t => t.date ≤ day) (recordedOn entries loan first last)

/-- What is recorded on ranges of days that follow one another is what is recorded on the whole
range, each transaction as often; by induction over the ranges.
-/
theorem Successive.recordedOn_perm {first last : Date} {ranges : List (Date × Date)}
    (days : Successive first last ranges) (entries : List Entry) (loan : LoanId)
    : (ranges.map fun range => recordedOn entries loan range.1 range.2).flatten.Perm
        (recordedOn entries loan first last) := by
  induction days with
  | whole first last => simp
  | cut follows after before _ ih =>
      exact (ih.append_left _).trans (recordedOn_cut follows after before entries loan)

/-- However a ledger was filled, a loan that was ever marked is refused on all days, with the reason
of its last mark. Requests for any other loan are answered with exactly the transactions recorded
for it on the days asked for, as often as recorded and in the order of recording, so that the
answers for ranges of days that follow one another together are the answer for the whole range. And
a history that does the same to the loan, whatever it does to other loans in between, leaves the
same answers.
-/
theorem after_answers_as_recorded (entries : List Entry) (loan : LoanId)
    : (∀ front reason back,
        entries = front ++ .mark loan reason :: back
        → (∀ other, .mark loan other ∉ back)
        → ∀ first last,
            (after entries).answer ⟨loan, first, last⟩ = .error (.dataAccessFailure loan reason))
      ∧ ((∀ reason, .mark loan reason ∉ entries)
        → (∀ first last,
            (after entries).answer ⟨loan, first, last⟩ = .ok (recordedOn entries loan first last))
          ∧ ∀ first last ranges,
              Successive first last ranges
              → ∃ parts,
                  List.Forall₂
                    (fun range part =>
                      (after entries).answer ⟨loan, range.1, range.2⟩ = .ok part)
                    ranges parts
                  ∧ parts.flatten.Perm (recordedOn entries loan first last))
      ∧ ∀ others,
          others.flatMap (Entry.about loan) = entries.flatMap (Entry.about loan)
          → ∀ first last,
              (after others).answer ⟨loan, first, last⟩
              = (after entries).answer ⟨loan, first, last⟩ := by
  refine ⟨?_, fun unmarked => ⟨answer_of_unmarked unmarked, ?_⟩, ?_⟩
  · intro front reason back split later first last
    rw [split]
    exact answer_of_last_mark later first last
  · intro first last ranges days
    have each
        : List.Forall₂
            (fun range part => (after entries).answer ⟨loan, range.1, range.2⟩ = .ok part)
            ranges (ranges.map fun range => recordedOn entries loan range.1 range.2) := by
      rw [List.forall₂_map_right_iff, List.forall₂_same]
      exact fun range _ => answer_of_unmarked unmarked range.1 range.2
    exact ⟨_, each, days.recordedOn_perm entries loan⟩
  · intro others same first last
    exact answer_congr same.symm first last

end Ledger

namespace Sample

/-- The tenth day of a month of 2023. -/
def tenth (month : Month) : Date :=
  ⟨2023, month, 10, by decide, by decide, by decide, by cases month <;> decide⟩

/-- A repayment on the tenth day of a month. -/
def repaidAt (loan : LoanId) (month : Month) : LoanTransaction :=
  .repayment loan (tenth month) (.ofMajor 10) (.ofMajor 8)

/-- Entries for three loans, one of which is marked twice and has a repayment after that. -/
def history : List Ledger.Entry :=
  [.record (repaidAt 7 .february), .mark 9 "closed",
    .recordAll [repaidAt 8 .january, repaidAt 7 .january, repaidAt 7 .january], .mark 9 "lost",
    .record (repaidAt 9 .march), .record (repaidAt 7 .march)]

end Sample

/-- A month is asked for in two ranges, the first of which is a single day. -/
theorem Ledger.after_answers_as_recorded_sample
    : ∃ dayAfter,
        (Sample.tenth .january).next? = some dayAfter
        ∧ (after Sample.history).answer ⟨9, Sample.tenth .january, Sample.tenth .march⟩
          = .error (.dataAccessFailure 9 "lost")
        ∧ (after Sample.history).answer ⟨7, Sample.tenth .january, Sample.tenth .february⟩
          = .ok
              [Sample.repaidAt 7 .february, Sample.repaidAt 7 .january, Sample.repaidAt 7 .january]
        ∧ (∃ parts : List (List LoanTransaction),
            parts.length = 2
            ∧ parts.flatten.Perm
              [Sample.repaidAt 7 .february, Sample.repaidAt 7 .january,
                Sample.repaidAt 7 .january])
        ∧ (after (Sample.history.filter fun entry => entry.about 7 ≠ [])).answer
            ⟨7, Sample.tenth .january, Sample.tenth .february⟩
          = (after Sample.history).answer
              ⟨7, Sample.tenth .january, Sample.tenth .february⟩ := by
  obtain ⟨marked, -, -⟩ := after_answers_as_recorded Sample.history 9
  obtain ⟨-, unmarked, alike⟩ := after_answers_as_recorded Sample.history 7
  have never : ∀ reason, .mark 7 reason ∉ Sample.history := by simp [Sample.history]
  obtain ⟨answers, together⟩ := unmarked never
  have recorded
      : recordedOn Sample.history 7 (Sample.tenth .january) (Sample.tenth .february)
        = [Sample.repaidAt 7 .february, Sample.repaidAt 7 .january,
          Sample.repaidAt 7 .january] := by
    decide +kernel
  obtain ⟨dayAfter, follows⟩ :=
    Date.exists_next?_of_lt (show Sample.tenth .january < Sample.tenth .march by decide)
  have number := Date.dayNumber_of_next? follows
  refine ⟨dayAfter, follows, ?_, recorded ▸ answers _ _, ?_, alike _ ?_ _ _⟩
  · exact marked (Sample.history.take 3) "lost" (Sample.history.drop 4) rfl
      (by simp [Sample.history]) _ _
  · have days
        : Successive (Sample.tenth .january) (Sample.tenth .february)
            [(Sample.tenth .january, Sample.tenth .january),
              (dayAfter, Sample.tenth .february)] :=
      .cut follows (by change _ ≤ dayAfter.dayNumber; omega) (by decide) (.whole _ _)
    obtain ⟨parts, each, all⟩ := together _ _ _ days
    exact ⟨parts, each.length_eq.symm, recorded ▸ all⟩
  · decide +kernel

end ChargeBasis

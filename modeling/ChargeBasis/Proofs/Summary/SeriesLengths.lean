import ChargeBasis.Encoding.BalanceSeries
import ChargeBasis.Proofs.Encoding.Stored
import ChargeBasis.Proofs.Summary.Aggregation

/-!
The lengths of the two lists of a series. A series that is put together from lists, built for a loan
or handed out by a cache has as many repayments as balances, and as many of both as its period has
months if it is built. A document may list different numbers of them, and then so does the series
that is loaded from it.
-/

namespace ChargeBasis

open Json (Gives Record)

namespace BalanceSeries

/-- There are as many repayments as balances. -/
def IsEven (series : BalanceSeries) : Prop :=
  series.repayments.length = series.length

instance (series : BalanceSeries) : Decidable series.IsEven :=
  inferInstanceAs (Decidable (series.repayments.length = series.length))

/-- A series is obtained: put together from lists, built for a loan, held by the cache of a period
after some calls, given as the answer to a further call, or loaded from a document.
-/
inductive Obtained : BalanceSeries → Prop
  | composed {loan : Loan} {isDemandLoan : Bool} {mode : SummaryMode}
    {outstanding repayments : List Money} {series : BalanceSeries}
    (composed : ofBackward loan isDemandLoan mode outstanding repayments = .ok series)
    : Obtained series
  | built {builder : SummaryBuilder} {loan : Loan} {product : LoanProduct} {mode : SummaryMode}
    {log after : FetchLog} {series : BalanceSeries}
    (built : (builder.build loan product mode).runAfter log = (.ok series, after))
    : Obtained series
  | held {period : ChargePeriod} {calls : List CacheCall} {series : BalanceSeries}
    (held : series ∈ (SummaryCache.afterCalls period calls).summaries)
    : Obtained series
  | answered {period : ChargePeriod} {calls : List CacheCall} {call : CacheCall}
    {series : BalanceSeries}
    (answered : (call.answer (SummaryCache.afterCalls period calls)).1 = .ok series)
    : Obtained series
  | loaded {document : Json} {series : BalanceSeries} (loaded : ofJson document = .ok series)
    : Obtained series

/-- A document lists some numbers of balances and of repayments. -/
def Lists (document : Json) (balances repayments : ℕ) : Prop :=
  ∃ entries outstanding repaid,
    Gives (fields.map Json.Field.name) document entries
    ∧ ("outstanding", .array outstanding) ∈ entries
    ∧ ("repayments", .array repaid) ∈ entries
    ∧ outstanding.length = balances
    ∧ repaid.length = repayments

variable {series : BalanceSeries} {document : Json}

-----------------------------------------------------------------------------------------
-- Series that are made
-----------------------------------------------------------------------------------------

theorem isEven_of_ofBackward {loan : Loan} {isDemandLoan : Bool} {mode : SummaryMode}
    {outstanding repayments : List Money}
    (composed : ofBackward loan isDemandLoan mode outstanding repayments = .ok series)
    : series.IsEven := by
  unfold ofBackward at composed
  split at composed
  · next same =>
    cases composed
    simp only [IsEven, length, List.length_reverse, same]
  · cases composed

theorem isEven_of_build {builder : SummaryBuilder} {loan : Loan} {product : LoanProduct}
    {mode : SummaryMode} {log after : FetchLog}
    (built : (builder.build loan product mode).runAfter log = (.ok series, after))
    : series.IsEven := by
  obtain ⟨balances, repayments⟩ := SummaryBuilder.length_of_build built
  exact repayments.trans balances.symm

/-- What a cache answers is what it holds or what was built for the call. -/
theorem isEven_of_answer {period : ChargePeriod} {calls : List CacheCall} {call : CacheCall}
    (answered : (call.answer (SummaryCache.afterCalls period calls)).1 = .ok series)
    : series.IsEven := by
  cases call.servedBy (SummaryCache.afterCalls period calls) with
  | kept other found answer _ =>
      rw [answer] at answered
      cases answered
      exact SummaryCache.length_repayments_of_mem_afterCalls (List.mem_of_find?_eq_some found)
  | built other after _ built answer _ =>
      rw [answer] at answered
      cases answered
      exact isEven_of_build built
  | failed fault after _ _ answer _ =>
      rw [answer] at answered
      cases answered

-----------------------------------------------------------------------------------------
-- Series that are loaded
-----------------------------------------------------------------------------------------

theorem fields_nodup
    : (fields.map Json.Field.name).Nodup := by
  decide

/-- A document lists one number of balances and one of repayments, since it gives one value for each
field. -/
theorem Lists.unique {balances repayments otherBalances otherRepayments : ℕ}
    (lists : Lists document balances repayments)
    (again : Lists document otherBalances otherRepayments)
    : balances = otherBalances ∧ repayments = otherRepayments := by
  obtain ⟨entries, _, _, gives, balancesAt, repaymentsAt, rfl, rfl⟩ := lists
  obtain ⟨others, _, _, same, otherBalancesAt, otherRepaymentsAt, rfl, rfl⟩ := again
  have once := gives.nodup fields_nodup
  obtain rfl := gives.unique same
  cases Json.eq_of_mem once balancesAt otherBalancesAt
  cases Json.eq_of_mem once repaymentsAt otherRepaymentsAt
  exact ⟨rfl, rfl⟩

/-- A series is loaded with as many balances and repayments as its document lists. -/
theorem lists_of_ofJson (loaded : ofJson document = .ok series)
    : Lists document series.length series.repayments.length := by
  rw [ofJson] at loaded
  simp only [Except.bind_eq_ok_iff] at loaded
  obtain ⟨⟨entries⟩, read, _, _, _, _, _, _, _, _, _, balances, _, repayments, same⟩ := loaded
  cases same
  obtain ⟨gives, -⟩ := (Record.read_eq_ok_iff fields_nodup).mp read
  have once := gives.nodup fields_nodup
  obtain ⟨_, balancesAt, balances⟩ := (Record.get_eq_ok_iff once).mp balances
  obtain ⟨_, repaymentsAt, repayments⟩ := (Record.get_eq_ok_iff once).mp repayments
  obtain ⟨items, rfl, itemsLength⟩ := Json.Decoder.length_of_list balances
  obtain ⟨others, rfl, othersLength⟩ := Json.Decoder.length_of_list repayments
  exact ⟨entries, items, others, gives, balancesAt, repaymentsAt, itemsLength, othersLength⟩

-----------------------------------------------------------------------------------------
-- All series
-----------------------------------------------------------------------------------------

/-- A series that is obtained has as many repayments as balances, unless it was loaded from a
document that lists different numbers of them; by cases on how it was obtained.
-/
theorem Obtained.isEven_or (obtained : series.Obtained)
    : series.IsEven
      ∨ ∃ document balances repayments,
          ofJson document = .ok series
          ∧ Lists document balances repayments
          ∧ balances ≠ repayments := by
  cases obtained with
  | composed composed => exact .inl (isEven_of_ofBackward composed)
  | built built => exact .inl (isEven_of_build built)
  | held held => exact .inl (SummaryCache.length_repayments_of_mem_afterCalls held)
  | answered answered => exact .inl (isEven_of_answer answered)
  | loaded loaded =>
      by_cases even : series.IsEven
      · exact .inl even
      · exact .inr ⟨_, _, _, loaded, lists_of_ofJson loaded, Ne.symm even⟩

/-- However a series is obtained, it has as many repayments as balances, unless it was loaded from a
document that lists different numbers of them. If it is built, it has as many of both as the period
has months; if it is loaded, it has as many of each as the document lists, so that just the document
decides; and when it is written and loaded again, it has as many of each as before.
-/
theorem even_unless_listed_unevenly (series : BalanceSeries)
    : (series.Obtained
        → series.IsEven
          ∨ ∃ document balances repayments,
              ofJson document = .ok series
              ∧ Lists document balances repayments
              ∧ balances ≠ repayments)
      ∧ (∀ (builder : SummaryBuilder) (loan : Loan) (product : LoanProduct) (mode : SummaryMode)
          (log after : FetchLog),
          (builder.build loan product mode).runAfter log = (.ok series, after)
          → series.length = builder.period.months
            ∧ series.repayments.length = builder.period.months)
      ∧ (∀ (document : Json) (balances repayments : ℕ),
          ofJson document = .ok series
          → Lists document balances repayments
          → series.length = balances
            ∧ series.repayments.length = repayments
            ∧ (series.IsEven ↔ balances = repayments))
      ∧ ∃ again : BalanceSeries,
          Json.ReadsBack toJson ofJson series again
          ∧ again.length = series.length
          ∧ again.repayments.length = series.repayments.length := by
  refine ⟨Obtained.isEven_or, fun _ _ _ _ _ _ => SummaryBuilder.length_of_build, ?_, ?_⟩
  · intro document balances repayments loaded lists
    obtain ⟨rfl, rfl⟩ := (lists_of_ofJson loaded).unique lists
    exact ⟨rfl, rfl, eq_comm⟩
  · exact ⟨series.unsigned, .of_isPlain series.isPlain_toJson series.ofJson_toJson,
      List.length_map _, List.length_map _⟩

end BalanceSeries

namespace Sample

/-- A document of a series with one balance and no repayments. -/
def unevenDocument : Json :=
  .object [("loan_id", .ofInt 4), ("is_demand_loan", .bool true),
    ("disbursement_date", .text "2024-01-01"), ("mode", .text "Daily"),
    ("outstanding", .array [.text "1"]), ("repayments", .array [])]

/-- A text of the document. -/
def unevenText : String :=
  "\x7b\"loan_id\":4,\"is_demand_loan\":true,\"disbursement_date\":\"2024-01-01\","
    ++ "\"mode\":\"Daily\",\"outstanding\":[\"1\"],\"repayments\":[]\x7d"

/-- The series that the document is of. -/
def unevenSeries : BalanceSeries :=
  ⟨4, true, quarter.fromDate, .daily, [.one], []⟩

theorem unevenDocument_loaded
    : BalanceSeries.ofJson unevenDocument = .ok unevenSeries := by
  decide +kernel

theorem unevenText_loaded
    : Json.decodeText BalanceSeries.ofJson unevenText = .ok unevenSeries := by
  decide +kernel

theorem unevenDocument_lists
    : BalanceSeries.Lists unevenDocument 1 0 :=
  ⟨_, [.text "1"], [], .of_keys rfl BalanceSeries.fields_nodup, by simp, by simp, rfl, rfl⟩

end Sample

namespace BalanceSeries

/-- A series that is built for a quarter has three balances and three repayments, and one that is
loaded from an uneven document has what is listed there.
-/
theorem even_unless_listed_unevenly_sample
    : (∃ series,
        Sample.built.buildAlone.1 = .ok series
        ∧ series.length = 3
        ∧ series.repayments.length = 3)
      ∧ Sample.unevenSeries.length = 1
      ∧ Sample.unevenSeries.repayments.length = 0
      ∧ ¬Sample.unevenSeries.IsEven
      ∧ ∃ document balances repayments,
          ofJson document = .ok Sample.unevenSeries
          ∧ Lists document balances repayments
          ∧ balances ≠ repayments := by
  refine ⟨?_, ?_⟩
  · rcases alone : Sample.built.buildAlone with ⟨fault | series, after⟩
    · have builds : Sample.built.buildAlone.1.toOption.isSome = true := by decide +kernel
      rw [alone] at builds
      cases builds
    · obtain ⟨_, whole, _, _⟩ := even_unless_listed_unevenly series
      exact ⟨series, rfl, whole _ _ _ _ _ _ alone⟩
  · obtain ⟨even, _, listed, _⟩ := even_unless_listed_unevenly Sample.unevenSeries
    obtain ⟨balances, repayments, same⟩ :=
      listed Sample.unevenDocument 1 0 Sample.unevenDocument_loaded Sample.unevenDocument_lists
    have uneven : ¬Sample.unevenSeries.IsEven := fun h => absurd (same.mp h) (by decide)
    exact ⟨balances, repayments, uneven,
      (even (.loaded Sample.unevenDocument_loaded)).resolve_left uneven⟩

/-- Not every series that is loaded from a text has as many repayments as balances. -/
theorem not_forall_obtained_even
    : ¬∀ series : BalanceSeries, series.Obtained → series.IsEven := by
  intro even
  obtain ⟨document, _, loaded⟩ := Json.exists_of_decodeText Sample.unevenText_loaded
  exact absurd (even Sample.unevenSeries (.loaded loaded)) (by decide)

end BalanceSeries

end ChargeBasis

import ChargeBasis.Proofs.Encoding.Stored
import ChargeBasis.Proofs.Period.Months

/-!
Loading charge periods. A period that is loaded is the one that its billing period has in its year,
and boundaries that the text gives are its own; a text with other boundaries is rejected.
-/

namespace ChargeBasis

open Json (Decoder Field Record Gives ReadsBack)

namespace ChargePeriod

-----------------------------------------------------------------------------------------
-- Boundaries
-----------------------------------------------------------------------------------------

variable {period : BillingPeriod} {year : Int32} {fromDate toDate : Option Date}

/-- The boundary of a period stands in for one that is left out. -/
theorem getD_eq_iff {boundary : Option Date} {own : Date}
    : boundary.getD own = own ↔ ∀ d ∈ boundary, d = own := by
  cases boundary <;> simp

/-- Boundaries are accepted exactly if they are left out or are those of the period in the year. -/
theorem withBoundaries_eq_ok_iff {found : ChargePeriod}
    : withBoundaries period year fromDate toDate = .ok found
      ↔ period.inYear year = .ok found
        ∧ (∀ d ∈ fromDate, d = found.fromDate)
        ∧ ∀ d ∈ toDate, d = found.toDate := by
  rw [withBoundaries, Except.bind_eq_ok_iff]
  simp only [getD_eq_iff]
  constructor
  · rintro ⟨derived, resolves, accepted⟩
    split at accepted
    · next own =>
      cases accepted
      exact ⟨resolves, own⟩
    · cases accepted
  · rintro ⟨resolves, own⟩
    exact ⟨found, resolves, if_pos own⟩

/-- Boundaries that are not those of the period in the year are refused, and the error names the
boundaries that were asked for.
-/
theorem withBoundaries_of_foreign {derived : ChargePeriod}
    (resolves : period.inYear year = .ok derived)
    (foreign : (∃ d ∈ fromDate, d ≠ derived.fromDate) ∨ ∃ d ∈ toDate, d ≠ derived.toDate)
    : withBoundaries period year fromDate toDate
      = .error (.invalidDateRange (fromDate.getD derived.fromDate)
        (toDate.getD derived.toDate)) := by
  have differs
      : ¬ (fromDate.getD derived.fromDate = derived.fromDate
        ∧ toDate.getD derived.toDate = derived.toDate) := by
    rw [getD_eq_iff, getD_eq_iff]
    rintro ⟨first, last⟩
    rcases foreign with ⟨d, given, other⟩ | ⟨d, given, other⟩
    · exact other (first d given)
    · exact other (last d given)
  rw [withBoundaries, resolves]
  exact if_neg differs

-----------------------------------------------------------------------------------------
-- Well-formed values
-----------------------------------------------------------------------------------------

/-- What entries give for a boundary: a date, or nothing if they leave it out or hold null for it.
-/
def GivesBoundary (entries : List (String × Json)) (name : String) (boundary : Option Date)
    : Prop :=
  (∃ value, (name, value) ∈ entries ∧ Date.ofJson.nullable value = .ok boundary)
  ∨ name ∉ entries.map Prod.fst ∧ boundary = none

/-- A JSON value is well formed for a charge period: it gives no field twice, a billing period, a
year, and for each boundary a date or nothing.
-/
def WellFormed (j : Json) (period : BillingPeriod) (year : Int32) (fromDate toDate : Option Date)
    : Prop :=
  ∃ entries,
    Gives ["period", "year", "from_date", "to_date"] j entries
    ∧ (∃ value, ("period", value) ∈ entries ∧ BillingPeriod.ofJson value = .ok period)
    ∧ (∃ value, ("year", value) ∈ entries ∧ Decoder.int32 value = .ok year)
    ∧ GivesBoundary entries "from_date" fromDate
    ∧ GivesBoundary entries "to_date" toDate

theorem fields_nodup
    : (fields.map Field.name).Nodup := by
  decide

theorem check_boundary {entries : List (String × Json)} (once : (entries.map Prod.fst).Nodup)
    {name : String} {boundary : Option Date} (gives : GivesBoundary entries name boundary)
    {value : Json} (given : (name, value) ∈ entries)
    : (Field.of name Date.ofJson.nullable).check value = .ok () := by
  rw [Json.Field.check_of_eq_ok_iff]
  rcases gives with ⟨only, entry, reads⟩ | ⟨absent, -⟩
  · exact ⟨boundary, Json.eq_of_mem once entry given ▸ reads⟩
  · exact absurd (Json.mem_keys given) absent

/-- A well-formed value is loaded as its billing period in its year, if its boundaries are accepted.
-/
theorem ofJson_of_wellFormed {j : Json} (wellFormed : WellFormed j period year fromDate toDate)
    : ofJson j
      = (withBoundaries period year fromDate toDate).mapError fun e => .rejected e.message := by
  obtain ⟨entries, gives, ⟨p, periodAt, readsPeriod⟩, ⟨y, yearAt, readsYear⟩, first, last⟩ :=
    wellFormed
  have once := gives.nodup fields_nodup
  have passes : Record.Passes fields entries := by
    simp only [Record.Passes, fields, List.forall_mem_cons, Field.name_of]
    refine ⟨fun value given => ?_, fun value given => ?_, fun value => check_boundary once first,
      fun value => check_boundary once last, List.forall_mem_nil _⟩
    · rw [Json.Field.check_of_eq_ok_iff]
      exact ⟨period, Json.eq_of_mem once periodAt given ▸ readsPeriod⟩
    · rw [Json.Field.check_of_eq_ok_iff]
      exact ⟨year, Json.eq_of_mem once yearAt given ▸ readsYear⟩
  have read : Record.read fields j = .ok ⟨entries⟩ :=
    (Record.read_eq_ok_iff fields_nodup).mpr ⟨gives, passes⟩
  have onePeriod : Record.get ⟨entries⟩ "period" BillingPeriod.ofJson = .ok period :=
    (Record.get_eq_ok_iff once).mpr ⟨p, periodAt, readsPeriod⟩
  have oneYear : Record.get ⟨entries⟩ "year" Decoder.int32 = .ok year :=
    (Record.get_eq_ok_iff once).mpr ⟨y, yearAt, readsYear⟩
  have oneFirst : Record.get? ⟨entries⟩ "from_date" Date.ofJson = .ok fromDate :=
    (Record.get?_eq_ok_iff once).mpr first
  have oneLast : Record.get? ⟨entries⟩ "to_date" Date.ofJson = .ok toDate :=
    (Record.get?_eq_ok_iff once).mpr last
  rw [ofJson, read, Except.ok_bind, onePeriod, Except.ok_bind, oneYear, Except.ok_bind, oneFirst,
    Except.ok_bind, oneLast, Except.ok_bind]

/-- Only a well-formed value is loaded. -/
theorem wellFormed_of_ofJson {j : Json} {found : ChargePeriod} (loads : ofJson j = .ok found)
    : ∃ fromDate toDate,
        WellFormed j found.period found.year fromDate toDate
        ∧ withBoundaries found.period found.year fromDate toDate = .ok found := by
  rw [ofJson] at loads
  simp only [Except.bind_eq_ok_iff, Except.mapError_eq_ok_iff] at loads
  obtain ⟨⟨entries⟩, read, period, onePeriod, year, oneYear, fromDate, oneFirst, toDate, oneLast,
    accepted⟩ := loads
  obtain ⟨gives, -⟩ := (Record.read_eq_ok_iff fields_nodup).mp read
  have once := gives.nodup fields_nodup
  obtain ⟨rfl, rfl⟩ := BillingPeriod.inYear_eq_ok (withBoundaries_eq_ok_iff.mp accepted).1
  exact ⟨fromDate, toDate,
    ⟨entries, gives, (Record.get_eq_ok_iff once).mp onePeriod,
      (Record.get_eq_ok_iff once).mp oneYear, (Record.get?_eq_ok_iff once).mp oneFirst,
      (Record.get?_eq_ok_iff once).mp oneLast⟩,
    accepted⟩

-----------------------------------------------------------------------------------------
-- Loading
-----------------------------------------------------------------------------------------

/-- A written period gives its four fields. -/
theorem wellFormed_toJson (period : ChargePeriod)
    : WellFormed period.toJson period.period period.year period.fromDate period.toDate := by
  refine ⟨_, .of_keys rfl fields_nodup, ⟨_, by simp, period.period.ofJson_toJson⟩,
    ⟨_, by simp, Decoder.int32_ofInt32 period.year⟩, .inl ⟨period.fromDate.toJson, by simp, ?_⟩,
    .inl ⟨period.toDate.toJson, by simp, ?_⟩⟩
  · exact congrArg (Except.map some) period.fromDate.ofJson_toJson
  · exact congrArg (Except.map some) period.toDate.ofJson_toJson

theorem ofJson_toJson (period : ChargePeriod)
    : ofJson period.toJson = .ok period := by
  have own : withBoundaries period.period period.year period.fromDate period.toDate
      = .ok period :=
    withBoundaries_eq_ok_iff.mpr ⟨period.inYear_self, by simp, by simp⟩
  rw [ofJson_of_wellFormed period.wellFormed_toJson, own]
  rfl

theorem isPlain_toJson (period : ChargePeriod)
    : period.toJson.IsPlain := by
  apply Json.isPlain_object
  simp [period.period.isPlain_toJson, Json.isPlain_ofInt32, Date.isPlain_toJson]

/-- A period that is loaded from a text is the one that its billing period has in its year, the text
is well formed, and every boundary that it gives is that of the period. A well-formed text for a
period that its year has, but with another boundary, is rejected as an invalid range of dates. And
every period is loaded from the texts that it is written as.
-/
theorem loaded_periods_are_genuine
    : (∀ (s : String) (found : ChargePeriod),
        Json.decodeText ofJson s = .ok found
        → found.period.inYear found.year = .ok found
          ∧ ∃ j fromDate toDate,
            Json.parse s = some j
            ∧ WellFormed j found.period found.year fromDate toDate
            ∧ (∀ d ∈ fromDate, d = found.fromDate)
            ∧ ∀ d ∈ toDate, d = found.toDate)
      ∧ (∀ (s : String) (j : Json) (period : BillingPeriod) (year : Int32)
          (fromDate toDate : Option Date) (derived : ChargePeriod),
        Json.parse s = some j
        → WellFormed j period year fromDate toDate
        → period.inYear year = .ok derived
        → (∃ d ∈ fromDate, d ≠ derived.fromDate) ∨ (∃ d ∈ toDate, d ≠ derived.toDate)
        → Json.decodeText ofJson s
          = .error (.rejected (ChargeError.invalidDateRange (fromDate.getD derived.fromDate)
            (toDate.getD derived.toDate)).message))
      ∧ ∀ period : ChargePeriod, ReadsBack toJson ofJson period period := by
  refine ⟨fun s found loads => ?_, fun s j period year fromDate toDate derived parses wellFormed
    resolves foreign => ?_, fun period => .of_isPlain period.isPlain_toJson period.ofJson_toJson⟩
  · rw [Json.decodeText] at loads
    split at loads
    · next j parses =>
      obtain ⟨fromDate, toDate, wellFormed, accepted⟩ := wellFormed_of_ofJson loads
      obtain ⟨resolves, first, last⟩ := withBoundaries_eq_ok_iff.mp accepted
      exact ⟨resolves, j, fromDate, toDate, parses, wellFormed, first, last⟩
    · cases loads
  · rw [Json.decodeText, parses]
    dsimp only
    rw [ofJson_of_wellFormed wellFormed, withBoundaries_of_foreign resolves foreign]
    rfl

end ChargePeriod

namespace Sample

/-- The first quarter of 2024, its last day left open. -/
def ownText : String :=
  "\x7b\"period\":\x7b\"Quarterly\":\"Q1\"\x7d,\"year\":2024,\"to_date\":null\x7d"

/-- The first quarter of 2024 with a first day that is not its own. -/
def foreignText : String :=
  "\x7b\"period\":\x7b\"Quarterly\":\"Q1\"\x7d,\"year\":2024,\"from_date\":\"2024-02-01\"\x7d"

theorem exists_wellFormed_foreignText
    : ∃ j,
        Json.parse foreignText = some j
        ∧ ChargePeriod.WellFormed j (.quarterly .q1) 2024 (some (day .february 1 (by decide)))
          none := by
  refine ⟨.object [("period", .object [("Quarterly", .text "Q1")]), ("year", .ofInt 2024),
    ("from_date", .text "2024-02-01")], rfl, _, .object (by decide), ?_, ?_, ?_, ?_⟩
  · exact ⟨.object [("Quarterly", .text "Q1")], by simp [Json.named], rfl⟩
  · exact ⟨.ofInt 2024, by simp [Json.named], rfl⟩
  · exact .inl ⟨.text "2024-02-01", by simp [Json.named], rfl⟩
  · exact .inr ⟨by decide, rfl⟩

end Sample

theorem ChargePeriod.loaded_periods_are_genuine_sample
    : Json.decodeText ofJson Sample.ownText = .ok Sample.quarter
      ∧ BillingPeriod.inYear (.quarterly .q1) 2024 = .ok Sample.quarter
      ∧ Json.decodeText ofJson Sample.foreignText
        = .error (.rejected "invalid date range: 2024-02-01 is not before 2024-03-31") := by
  have loads : Json.decodeText ofJson Sample.ownText = .ok Sample.quarter := rfl
  obtain ⟨j, parses, wellFormed⟩ := Sample.exists_wellFormed_foreignText
  obtain ⟨genuine, rejects, -⟩ := loaded_periods_are_genuine
  exact ⟨loads, (genuine _ _ loads).1,
    rejects _ j _ _ _ _ _ parses wellFormed Sample.quarter.inYear_self
      (.inl ⟨_, rfl, by decide⟩)⟩

end ChargeBasis

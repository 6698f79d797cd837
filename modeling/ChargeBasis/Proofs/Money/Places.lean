import ChargeBasis.Encoding.Money
import ChargeBasis.Money.Quotient
import ChargeBasis.Proofs.Money.Exactness

/-!
Where an amount of money comes from, and how many places it has. Whatever was done before, an amount
that was just made, added, subtracted or multiplied has at most the places kept. More places come
only from a document and from a quotient that was asked for with more, and they stay only as long as
the amount is merely rounded to more places than are kept.
-/

namespace ChargeBasis.Money

-----------------------------------------------------------------------------------------
-- Origins
-----------------------------------------------------------------------------------------

/-- A way to come by an amount. -/
inductive Origin where
  | zero
  | one
  | ofDecimal (x : Decimal)
  | ofMajor (n : Int64)
  | parse (s : String)
  | load (document : Json)
  | add (a b : Origin)
  | sub (a b : Origin)
  | mul (a : Origin) (factor : Decimal)
  | weightedByDays (a : Origin) (days : ℤ)
  | round (a : Origin) (places : ℕ)
  | divideHalfUp (a : Origin) (divisor : Decimal) (places : ℕ)
  | sum (amounts : List Origin)

namespace Origin

/-- An amount is what comes of an origin, no step of which fails. -/
inductive Yields : Origin → Money → Prop
  | zero : Yields .zero .zero
  | one : Yields .one .one
  | ofDecimal (x : Decimal) : Yields (.ofDecimal x) (.ofDecimal x)
  | ofMajor (n : Int64) : Yields (.ofMajor n) (.ofMajor n)
  | parse {s : String} {m : Money} (parsed : Money.parse s = .ok m) : Yields (.parse s) m
  | load {document : Json} {m : Money} (loaded : ofJson document = .ok m)
    : Yields (.load document) m
  | add {a b : Origin} {x y m : Money} (left : Yields a x) (right : Yields b y)
    (added : x.add y = .ok m)
    : Yields (.add a b) m
  | sub {a b : Origin} {x y m : Money} (left : Yields a x) (right : Yields b y)
    (subtracted : x.sub y = .ok m)
    : Yields (.sub a b) m
  | mul {a : Origin} {x m : Money} {factor : Decimal} (amount : Yields a x)
    (multiplied : x.mul factor = .ok m)
    : Yields (.mul a factor) m
  | weightedByDays {a : Origin} {x m : Money} {days : ℤ} (amount : Yields a x)
    (weighted : x.weightedByDays days = .ok m)
    : Yields (.weightedByDays a days) m
  | round {a : Origin} {x : Money} (amount : Yields a x) (places : ℕ)
    : Yields (.round a places) (x.round places)
  | divideHalfUp {a : Origin} {x m : Money} {divisor : Decimal} {places : ℕ} (amount : Yields a x)
    (divided : x.divideHalfUp divisor places = .ok m)
    : Yields (.divideHalfUp a divisor places) m
  | sum {origins : List Origin} {amounts : List Money} {m : Money}
    (each : List.Forall₂ Yields origins amounts) (total : Money.sum amounts = .ok m)
    : Yields (.sum origins) m

/-- An origin ends with an amount of more places than are kept, loaded from a document or divided to
them, which since then was at most rounded to more places than are kept.
-/
inductive EndsUnsettled : Origin → Prop
  | load {document : Json} {m : Money} (loaded : ofJson document = .ok m) (long : ¬m.Settled)
    : EndsUnsettled (.load document)
  | divideHalfUp (a : Origin) (divisor : Decimal) {places : ℕ} (more : workingPlaces < places)
    : EndsUnsettled (.divideHalfUp a divisor places)
  | round {a : Origin} {places : ℕ} (unsettled : a.EndsUnsettled) (more : workingPlaces < places)
    : EndsUnsettled (.round a places)

end Origin

-----------------------------------------------------------------------------------------
-- Places
-----------------------------------------------------------------------------------------

theorem scale_round_le (m : Money) (places : ℕ)
    : (m.round places).amount.scale ≤ places :=
  Decimal.scale_round_le .toEven places m.amount

theorem settled_of_parse {s : String} {m : Money} (h : parse s = .ok m)
    : m.Settled := by
  unfold parse at h
  cases parsed : Decimal.parse s with
  | error fault =>
      rw [parsed] at h
      cases h
  | ok x =>
      rw [parsed] at h
      cases h
      exact scale_ofDecimal_le x

/-- Rounding does not add places. -/
theorem settled_round {m : Money} (settled : m.Settled) (places : ℕ)
    : (m.round places).Settled := by
  by_cases few : places ≤ workingPlaces
  · exact (m.scale_round_le places).trans few
  · have short : m.amount.scale ≤ places := by
      unfold Settled at settled
      omega
    rw [round, Decimal.round_of_scale_le short]
    exact settled

theorem scale_le_of_divideHalfUp {a m : Money} {divisor : Decimal} {places : ℕ}
    (h : a.divideHalfUp divisor places = .ok m)
    : m.amount.scale ≤ places := by
  unfold divideHalfUp Decimal.divideHalfUp at h
  split at h
  · cases h
  · cases divided : a.amount.div? divisor with
    | none =>
        rw [divided] at h
        cases h
    | some quotient =>
        rw [divided] at h
        cases h
        exact Decimal.scale_round_le .awayFromZero places quotient

/-- An amount has at most the places kept, unless its origin ends with one that was loaded or
divided to more places; by recursion over the origin, in which only a rounding looks further back
than the last step.
-/
theorem Origin.settled_or_endsUnsettled {origin : Origin} {m : Money} (made : origin.Yields m)
    : m.Settled ∨ origin.EndsUnsettled := by
  match origin, made with
  | _, .zero => exact .inl settled_zero
  | _, .one => exact .inl (Nat.zero_le _)
  | _, .ofDecimal x => exact .inl (scale_ofDecimal_le x)
  | _, .ofMajor n => exact .inl (Nat.zero_le _)
  | _, .parse parsed => exact .inl (settled_of_parse parsed)
  | _, .load loaded =>
      by_cases settled : m.Settled
      · exact .inl settled
      · exact .inr (.load loaded settled)
  | _, .add _ _ added => exact .inl (settled_of_add added)
  | _, .sub _ _ subtracted => exact .inl (settled_of_settle subtracted)
  | _, .mul _ multiplied => exact .inl (settled_of_settle multiplied)
  | _, .weightedByDays _ weighted => exact .inl (settled_of_settle weighted)
  | .round a places, .round amount _ =>
      rcases settled_or_endsUnsettled amount with settled | unsettled
      · exact .inl (settled_round settled places)
      · by_cases few : places ≤ workingPlaces
        · exact .inl ((scale_round_le _ places).trans few)
        · exact .inr (.round unsettled (Nat.lt_of_not_le few))
  | .divideHalfUp a divisor places, .divideHalfUp _ divided =>
      by_cases few : places ≤ workingPlaces
      · exact .inl ((scale_le_of_divideHalfUp divided).trans few)
      · exact .inr (.divideHalfUp a divisor (Nat.lt_of_not_le few))
  | _, .sum _ total => exact .inl (settled_of_sum total)

-----------------------------------------------------------------------------------------
-- Samples
-----------------------------------------------------------------------------------------

namespace Sample

/-- An amount of nine places. -/
def ninePlaces : Money :=
  ⟨⟨false, 1123456789, 9, by decide, by decide⟩⟩

theorem ninePlaces_loaded
    : (Origin.load (.text "1.123456789")).Yields ninePlaces :=
  .load (by decide +kernel)

end Sample

/-- An amount that is loaded with nine places and then added to has eight. -/
theorem Origin.settled_or_endsUnsettled_loaded_sum
    : ∃ m,
        (add (load (.text "1.123456789")) (ofMajor 2)).Yields m
        ∧ m.text = "3.12345679"
        ∧ m.Settled := by
  let total : Money := ⟨⟨false, 312345679, 8, by decide, by decide⟩⟩
  have added : Sample.ninePlaces.add (.ofMajor 2) = .ok total := by decide +kernel
  have made : (add (load (.text "1.123456789")) (ofMajor 2)).Yields total :=
    .add Sample.ninePlaces_loaded (.ofMajor 2) added
  refine ⟨total, made, by decide +kernel, ?_⟩
  exact (settled_or_endsUnsettled made).resolve_right fun unsettled => nomatch unsettled

/-- An amount that was just loaded has all the places of the document. -/
theorem Origin.not_forall_settled
    : ¬∀ (origin : Origin) (m : Money), origin.Yields m → m.Settled := by
  intro settled
  exact absurd (settled _ _ Sample.ninePlaces_loaded) (by decide)

/-- A third that is asked for with ten places has ten. -/
example
    : (Money.one.divideHalfUp (.ofInt64 3) 10).map (fun m => m.amount.scale) = .ok 10 := by
  decide +kernel

end ChargeBasis.Money

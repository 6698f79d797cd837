import ChargeBasis.Proofs.Money.Exactness
import ChargeBasis.Proofs.Source.Reading

/-!
The operations that a computation makes on amounts. A computation is accompanied by the list of its
additions and weightings, in the order in which they are made and up to the first that overflows. It
overflows only if one of them does, so that a computation with nothing but exact operations neither
overflows nor rounds.
-/

namespace ChargeBasis

/-- An addition of two amounts, or the weighting of an amount by days. -/
inductive Operation where
  | addition (a b : Money)
  | weighting (a : Money) (days : Int)
  deriving DecidableEq

namespace Operation

def result : Operation → Except Overflow Money
  | addition a b => a.add b
  | weighting a days => a.weightedByDays days

/-- What the operation gives without any rounding. -/
def value : Operation → ℚ
  | addition a b => a.toRat + b.toRat
  | weighting a days => a.toRat * days

/-- The operation does not overflow, and its result is not rounded. -/
def Exact (operation : Operation) : Prop :=
  ∃ m, operation.result = .ok m ∧ m.toRat = operation.value

theorem exact_addition {a b : Money} (ha : a.Settled) (hb : b.Settled)
    (range : Money.InRange (a.toRat + b.toRat))
    : (addition a b).Exact := by
  obtain ⟨c, added, _, value⟩ := Money.add_exact ha hb range
  exact ⟨c, added, value⟩

theorem exact_weighting {a : Money} {days : ℤ} (ha : a.Settled)
    (range : Money.InRange (a.toRat * days))
    : (weighting a days).Exact := by
  obtain ⟨c, weighed, _, value⟩ := Money.weightedByDays_exact ha range
  exact ⟨c, weighed, value⟩

-----------------------------------------------------------------------------------------
-- Steps
-----------------------------------------------------------------------------------------

section Steps

variable {ε ε' α β : Type} {fault : Overflow → ε} {operations : List Operation}
  {outcome : Except ε α}

/-- The operations made with the value of a step, none if the step has no value. -/
def following (outcome : Except ε α) (operations : α → List Operation) : List Operation :=
  match outcome with
  | .ok a => operations a
  | .error _ => []

@[simp] theorem following_ok (a : α) (operations : α → List Operation)
    : following (.ok a : Except ε α) operations = operations a :=
  rfl

theorem mem_following {more : α → List Operation} {operation : Operation}
    : operation ∈ following outcome more ↔ ∃ a, outcome = .ok a ∧ operation ∈ more a := by
  cases outcome <;> simp [following]

theorem exact_following {more : α → List Operation}
    (exact : ∀ a, outcome = .ok a → ∀ operation ∈ more a, operation.Exact)
    : ∀ operation ∈ following outcome more, operation.Exact := by
  intro operation member
  obtain ⟨a, value, made⟩ := mem_following.mp member
  exact exact a value operation made

/-- Whenever the outcome is an overflow, it is that of one of the operations. -/
def Explain (operations : List Operation) (fault : Overflow → ε) (outcome : Except ε α) : Prop :=
  ∀ kind, outcome = .error (fault kind) → ∃ operation ∈ operations, operation.result = .error kind

/-- An outcome with nothing but exact operations is no overflow. -/
theorem Explain.ne_overflow (explain : Explain operations fault outcome)
    (exact : ∀ operation ∈ operations, operation.Exact) (kind : Overflow)
    : outcome ≠ .error (fault kind) := by
  intro overflow
  obtain ⟨operation, made, failed⟩ := explain kind overflow
  obtain ⟨m, result, _⟩ := exact operation made
  cases failed.symm.trans result

theorem explain_of_ne (never : ∀ kind, outcome ≠ .error (fault kind))
    : Explain operations fault outcome :=
  fun kind overflow => absurd overflow (never kind)

theorem explain_ok (a : α)
    : Explain operations fault (.ok a) :=
  explain_of_ne nofun

theorem explain_result (operation : Operation)
    : Explain [operation] id operation.result :=
  fun _ overflow => ⟨operation, List.mem_singleton_self _, overflow⟩

theorem Explain.map (explain : Explain operations fault outcome) (f : α → β)
    : Explain operations fault (outcome.map f) := by
  intro kind overflow
  cases outcome with
  | error e => exact explain kind (congrArg Except.error (Except.error.inj overflow))
  | ok a => cases overflow

/-- An overflow in a computation with other errors besides is explained as before. -/
theorem Explain.lift {outcome : Except Overflow α} (explain : Explain operations id outcome)
    : Explain operations Fault.overflowed (outcome.mapError .overflowed) := by
  intro kind overflow
  cases outcome with
  | error other =>
      cases overflow
      exact explain kind rfl
  | ok a => cases overflow

/-- An error that ends a computation early is explained by the operations made by then. -/
theorem Explain.of_error {e : ε} (explain : Explain operations fault (.error e : Except ε α))
    (more : List Operation)
    : Explain (operations ++ more) fault (.error e : Except ε β) := by
  intro kind overflow
  obtain ⟨operation, made, failed⟩ :=
    explain kind (congrArg Except.error (Except.error.inj overflow))
  exact ⟨operation, List.mem_append_left _ made, failed⟩

theorem Explain.after (explain : Explain operations fault outcome) (before : List Operation)
    : Explain (before ++ operations) fault outcome := by
  intro kind overflow
  obtain ⟨operation, made, failed⟩ := explain kind overflow
  exact ⟨operation, List.mem_append_right _ made, failed⟩

/-- The overflow of two steps is that of the first, or that of the second after the first. -/
theorem Explain.bind {next : α → Except ε β} {more : α → List Operation}
    (first : Explain operations fault outcome)
    (second : ∀ a, outcome = .ok a → Explain (more a) fault (next a))
    : Explain (operations ++ following outcome more) fault (outcome >>= next) := by
  cases outcome with
  | error e => exact first.of_error _
  | ok a => exact (second a rfl).after _

/-- What follows without an overflow of its own needs no explanation. -/
theorem Explain.bind_of_ne {next : α → Except ε β} (first : Explain operations fault outcome)
    (never : ∀ a kind, next a ≠ .error (fault kind))
    : Explain operations fault (outcome >>= next) := by
  intro kind overflow
  cases outcome with
  | error e => exact first kind (congrArg Except.error (Except.error.inj overflow))
  | ok a => exact absurd overflow (never a kind)

/-- The overflow of a first step that has no other error is that of an operation of its own. -/
theorem Explain.bind_lift {outcome : Except Overflow α} {next : α → Except Fault β}
    {more : α → List Operation} (first : Explain operations id outcome)
    (second : ∀ a, outcome = .ok a → Explain (more a) Fault.overflowed (next a))
    : Explain (operations ++ following outcome more) Fault.overflowed
        (outcome.mapError .overflowed >>= next) := by
  cases outcome with
  | error other => exact first.lift.of_error _
  | ok a => exact (second a rfl).after _

/-- An operation, and those made with its result. -/
def making (operation : Operation) (more : Money → List Operation) : List Operation :=
  operation :: following operation.result more

theorem explain_making {operation : Operation} {next : Money → Except Overflow β}
    {more : Money → List Operation} (second : ∀ m, Explain (more m) id (next m))
    : Explain (making operation more) id (operation.result >>= next) :=
  (explain_result operation).bind fun m _ => second m

theorem exact_making {operation : Operation} {more : Money → List Operation}
    (first : operation.Exact)
    (second : ∀ m, operation.result = .ok m → ∀ other ∈ more m, other.Exact)
    : ∀ other ∈ making operation more, other.Exact :=
  List.forall_mem_cons.mpr ⟨first, exact_following second⟩

end Steps

-----------------------------------------------------------------------------------------
-- Folds
-----------------------------------------------------------------------------------------

section Folds

variable {ε σ α : Type} {fault : Overflow → ε} {step : σ → α → Except ε σ}
  {operations : σ → α → List Operation} {state : σ} {items : List α}

/-- The operations of a fold are those of its steps, each in the state that it starts from. -/
def ofFold (step : σ → α → Except ε σ) (operations : σ → α → List Operation)
    : σ → List α → List Operation
  | _, [] => []
  | state, item :: rest =>
    operations state item
      ++ following (step state item) fun next => ofFold step operations next rest

/-- The operations of a fold are made by its steps, in the states reached with the items before
them; by induction over the items.
-/
theorem mem_ofFold {operation : Operation}
    : operation ∈ ofFold step operations state items
      ↔ ∃ front item back reached,
          items = front ++ item :: back
          ∧ front.foldlM step state = .ok reached
          ∧ operation ∈ operations reached item := by
  induction items generalizing state with
  | nil => simp [ofFold]
  | cons item rest ih =>
      simp only [ofFold, List.mem_append, mem_following, ih]
      constructor
      · intro made
        rcases made with here | ⟨next, value, front, other, back, reached, rfl, walked, found⟩
        · exact ⟨[], item, rest, state, rfl, rfl, here⟩
        · refine ⟨item :: front, other, back, reached, rfl, ?_, found⟩
          rw [List.foldlM_cons, value]
          exact walked
      · intro made
        obtain ⟨front, other, back, reached, split, walked, found⟩ := made
        cases front with
        | nil =>
            cases split
            cases walked
            exact .inl found
        | cons first front =>
            obtain ⟨rfl, rfl⟩ := List.cons.inj split
            rw [List.foldlM_cons, Except.bind_eq_ok_iff] at walked
            obtain ⟨next, value, later⟩ := walked
            exact .inr ⟨next, value, front, other, back, reached, rfl, later, found⟩

theorem exact_ofFold
    (exact
      : ∀ front item back reached,
          items = front ++ item :: back
          → front.foldlM step state = .ok reached
          → ∀ operation ∈ operations reached item, operation.Exact)
    : ∀ operation ∈ ofFold step operations state items, operation.Exact := by
  intro operation made
  obtain ⟨front, item, back, reached, split, walked, found⟩ := mem_ofFold.mp made
  exact exact front item back reached split walked operation found

theorem explain_ofFold
    (explain : ∀ state item, Explain (operations state item) fault (step state item))
    : Explain (ofFold step operations state items) fault (items.foldlM step state) := by
  induction items generalizing state with
  | nil => exact explain_ok state
  | cons item rest ih => exact (explain state item).bind fun _ _ => ih

end Folds

end Operation

-----------------------------------------------------------------------------------------
-- Sums
-----------------------------------------------------------------------------------------

namespace Money

open Operation

/-- The additions by which a list of amounts is summed. -/
def additions (amounts : List Money) : List Operation :=
  ofFold add (fun total amount => [.addition total amount]) zero amounts

/-- An amount is added to the sum of those before it. -/
theorem mem_additions {front back : List Money} {total amount : Money}
    (summed : sum front = .ok total)
    : .addition total amount ∈ additions (front ++ amount :: back) :=
  mem_ofFold.mpr ⟨front, amount, back, total, rfl, summed, List.mem_singleton_self _⟩

theorem explain_additions (amounts : List Money)
    : Explain (additions amounts) id (sum amounts) :=
  explain_ofFold fun total amount => explain_result (.addition total amount)

/-- A sum is made of exact additions if all sums on the way are in range: each starts from the exact
sum of the amounts before.
-/
theorem exact_additions {amounts : List Money} (places : ∀ m ∈ amounts, m.Settled)
    (range : PartialSumsInRange (amounts.map toRat))
    : ∀ operation ∈ additions amounts, operation.Exact := by
  apply exact_ofFold
  intro front amount back reached split walked operation made
  rw [List.mem_singleton.mp made]
  have leading : front ++ [amount] <+: amounts := ⟨back, by simp [split]⟩
  have shorter : front <+: amounts := (List.prefix_append front [amount]).trans leading
  have before : PartialSumsInRange (front.map toRat) := range.of_leading (shorter.map toRat)
  obtain ⟨total, summed, settled, value⟩ :=
    sum_exact (fun m member => places m (by simp [split, member])) before
  cases walked.symm.trans summed
  refine exact_addition settled (places amount (by simp [split])) ?_
  have next := range _ (leading.map toRat)
  rwa [List.map_append, List.sum_append, List.map_singleton, List.sum_singleton, ← value] at next

end Money

end ChargeBasis

import ChargeBasis.Source.Ledger
import Mathlib

/-!
Runs of computations that read transactions: how a run passes through the steps of a computation,
and what a source answers that reports the transactions of a loan faithfully.
-/

namespace ChargeBasis

namespace Except

variable {ε ε' α β : Type}

/-- Two steps give a value exactly if the first does and the second does from there. -/
theorem bind_eq_ok_iff {x : Except ε α} {f : α → Except ε β} {b : β}
    : x >>= f = .ok b ↔ ∃ a, x = .ok a ∧ f a = .ok b := by
  cases x with
  | error e => simp [bind, Except.bind]
  | ok a => simp [bind, Except.bind]

@[simp] theorem mapError_eq_ok_iff {f : ε → ε'} {x : Except ε α} {a : α}
    : x.mapError f = .ok a ↔ x = .ok a := by
  cases x <;> simp [Except.mapError]

theorem map_eq_ok_iff {f : α → β} {x : Except ε α} {b : β}
    : x.map f = .ok b ↔ ∃ a, x = .ok a ∧ f a = b := by
  cases x <;> simp [Except.map]

/-- Two steps that cannot have an error cannot have it together. -/
theorem bind_ne_error {x : Except ε α} {f : α → Except ε β} {e : ε} (first : x ≠ .error e)
    (second : ∀ a, f a ≠ .error e)
    : x >>= f ≠ .error e := by
  cases x with
  | error other => exact fun same => first (congrArg Except.error (Except.error.inj same))
  | ok a => exact second a

theorem mapError_overflowed_ne_failed (x : Except Overflow α) (error : ChargeError)
    : x.mapError Fault.overflowed ≠ .error (.failed error) := by
  cases x <;> nofun

theorem liftM_overflow (x : Except Overflow α)
    : (liftM x : Except Fault α) = x.mapError .overflowed :=
  rfl

theorem liftM_failed (x : Except ChargeError α)
    : (liftM x : Except Fault α) = x.mapError .failed :=
  rfl

end Except

namespace Reading

variable {α β : Type}

@[simp] theorem runAfter_pure (a : α) (log : FetchLog)
    : (pure a : Reading α).runAfter log = (.ok a, log) :=
  rfl

@[simp] theorem runAfter_liftM (outcome : Except Fault α) (log : FetchLog)
    : (liftM outcome : Reading α).runAfter log = (outcome, log) :=
  rfl

@[simp] theorem runAfter_getThe (log : FetchLog)
    : (getThe FetchLog : Reading FetchLog).runAfter log = (.ok log, log) :=
  rfl

@[simp] theorem runAfter_set (log next : FetchLog)
    : (set next : Reading PUnit).runAfter log = (.ok ⟨⟩, next) :=
  rfl

/-- A run goes on with the value of a step and ends with the fault of one. -/
theorem runAfter_bind (reading : Reading α) (next : α → Reading β) (log : FetchLog)
    : (reading >>= next).runAfter log
      = match reading.runAfter log with
        | (.ok a, after) => (next a).runAfter after
        | (.error fault, after) => (.error fault, after) := by
  unfold runAfter ExceptT.run StateT.run
  simp only [bind, ExceptT.bind, ExceptT.mk, StateT.bind, ExceptT.bindCont]
  rcases reading log with ⟨fault | a, after⟩ <;> rfl

/-- A run of two steps gives a value exactly if both do. -/
theorem runAfter_bind_eq_ok_iff {reading : Reading α} {next : α → Reading β}
    {log after : FetchLog} {b : β}
    : (reading >>= next).runAfter log = (.ok b, after)
      ↔ ∃ a between,
          reading.runAfter log = (.ok a, between)
          ∧ (next a).runAfter between = (.ok b, after) := by
  rw [runAfter_bind]
  constructor
  · intro h
    rcases outcome : reading.runAfter log with ⟨fault | a, between⟩
    · rw [outcome] at h
      cases h
    · rw [outcome] at h
      exact ⟨a, between, rfl, h⟩
  · intro steps
    obtain ⟨a, between, first, second⟩ := steps
    rw [first]
    exact second

/-- A run through a list that ends with a fault does so at one of the items, after the others before
it; by induction over the list.
-/
theorem exists_fault_of_foldlM {step : β → α → Reading β} {items : List α} {state : β}
    {log after : FetchLog} {fault : Fault}
    (h : (items.foldlM step state).runAfter log = (.error fault, after))
    : ∃ front item back reached between,
        items = front ++ item :: back
        ∧ (front.foldlM step state).runAfter log = (.ok reached, between)
        ∧ (step reached item).runAfter between = (.error fault, after) := by
  induction items generalizing state log with
  | nil => cases h
  | cons item rest ih =>
      rw [List.foldlM_cons, runAfter_bind] at h
      rcases first : (step state item).runAfter log with ⟨other | next, middle⟩
      · rw [first] at h
        exact ⟨[], item, rest, state, log, rfl, rfl, first.trans h⟩
      · rw [first] at h
        obtain ⟨front, culprit, back, reached, between, rfl, walked, failed⟩ := ih h
        refine ⟨item :: front, culprit, back, reached, between, rfl, ?_, failed⟩
        rw [List.foldlM_cons, runAfter_bind, first]
        exact walked

end Reading

namespace TransactionSource

/-- A request gives the answer of the source and is recorded in any case. -/
theorem runAfter_fetch (source : TransactionSource) (request : Fetch) (log : FetchLog)
    : (source.fetch request).runAfter log
      = ((source.answer log request).mapError .failed, log ++ [request]) := by
  rw [fetch, Reading.runAfter_bind, Reading.runAfter_getThe]
  simp only
  rw [Reading.runAfter_bind, Reading.runAfter_set]
  cases source.answer log request <;> rfl

/-- What the source answers does not depend on the requests before. -/
def Memoryless (source : TransactionSource) : Prop :=
  ∀ log other request, source.answer log request = source.answer other request

/-- The source answers every request for the loan with the transactions of its history that are
dated on the days asked for, each of them once, in any order.
-/
def Reports (source : TransactionSource) (loan : LoanId) (history : List LoanTransaction)
    : Prop :=
  ∀ log first last,
    ∃ transactions,
      source.answer log ⟨loan, first, last⟩ = .ok transactions
      ∧ transactions.Perm (history.filter fun t => first ≤ t.date ∧ t.date ≤ last)

end TransactionSource

theorem Ledger.memoryless_source (ledger : Ledger)
    : ledger.source.Memoryless :=
  fun _ _ _ => rfl

/-- A ledger reports what was recorded for every loan that is not marked. -/
theorem Ledger.reports_source {ledger : Ledger} {loan : LoanId}
    (available : ledger.unavailable.lookup loan = none)
    : ledger.source.Reports loan (ledger.transactionsOf loan) := by
  intro log first last
  refine ⟨_, by simp only [source, answer, available]; rfl, ?_⟩
  simp only [Bool.decide_and]
  exact List.Perm.refl _

end ChargeBasis

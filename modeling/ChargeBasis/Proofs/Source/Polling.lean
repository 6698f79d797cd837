import ChargeBasis.Proofs.Source.Reading

/-!
Planned requests. A computation that plans its requests makes them one after another and ends with
the first error of an answer; several of them together make the requests of each in turn.
-/

namespace ChargeBasis

namespace TransactionSource

variable {source : TransactionSource} {log : FetchLog} {requests : List Fetch}

/-- The first error among the answers to requests that are made one after another. -/
def refusal? (source : TransactionSource) (log : FetchLog) : List Fetch → Option ChargeError
  | [] => none
  | request :: later =>
    match source.answer log request with
    | .ok _ => source.refusal? (log ++ [request]) later
    | .error error => some error

/-- The requests that are made one after another up to the first one answered with an error. -/
def asked (source : TransactionSource) (log : FetchLog) : List Fetch → List Fetch
  | [] => []
  | request :: later =>
    match source.answer log request with
    | .ok _ => request :: source.asked (log ++ [request]) later
    | .error _ => [request]

section Answers

variable {request : Fetch} {later : List Fetch} {transactions : List LoanTransaction}
  {error : ChargeError}

theorem refusal?_of_ok (answer : source.answer log request = .ok transactions)
    : source.refusal? log (request :: later) = source.refusal? (log ++ [request]) later := by
  rw [refusal?, answer]

theorem refusal?_of_error (answer : source.answer log request = .error error)
    : source.refusal? log (request :: later) = some error := by
  rw [refusal?, answer]

theorem asked_of_ok (answer : source.answer log request = .ok transactions)
    : source.asked log (request :: later)
      = request :: source.asked (log ++ [request]) later := by
  rw [asked, answer]

theorem asked_of_error (answer : source.answer log request = .error error)
    : source.asked log (request :: later) = [request] := by
  rw [asked, answer]

end Answers

/-- Only planned requests are made, in the order of the plan. -/
theorem asked_prefix (source : TransactionSource) (log : FetchLog) (requests : List Fetch)
    : source.asked log requests <+: requests := by
  induction requests generalizing log with
  | nil => exact List.prefix_refl []
  | cons request later ih =>
      rcases answer : source.answer log request with error | transactions
      · rw [asked_of_error answer]
        exact ⟨later, rfl⟩
      · rw [asked_of_ok answer]
        exact List.cons_prefix_cons.mpr ⟨rfl, ih _⟩

/-- Without an error all planned requests are made. -/
theorem asked_of_answered (answered : source.refusal? log requests = none)
    : source.asked log requests = requests := by
  induction requests generalizing log with
  | nil => rfl
  | cons request later ih =>
      rcases answer : source.answer log request with error | transactions
      · rw [refusal?_of_error answer] at answered
        cases answered
      · rw [refusal?_of_ok answer] at answered
        rw [asked_of_ok answer, ih answered]

-----------------------------------------------------------------------------------------
-- Computations
-----------------------------------------------------------------------------------------

/-- How a computation with planned requests ends: with a value when all of them are answered, with
the first error of an answer, or with an overflow, which may come before the last request.
-/
inductive Polls {α : Type} (source : TransactionSource) (log : FetchLog) (requests : List Fetch)
    : Except Fault α → FetchLog → Prop
  | answered (a : α) (all : source.refusal? log requests = none)
    : source.Polls log requests (.ok a) (log ++ requests)
  | refused (error : ChargeError) (first : source.refusal? log requests = some error)
    : source.Polls log requests (.error (.failed error)) (log ++ source.asked log requests)
  | overflowed (kind : Overflow) {made : List Fetch} (part : made <+: source.asked log requests)
    : source.Polls log requests (.error (.overflowed kind)) (log ++ made)

variable {α β : Type} {outcome : Except Fault α} {after : FetchLog}

/-- What is made of a value makes no request. -/
theorem Polls.map (polls : source.Polls log requests outcome after) (f : α → β)
    : source.Polls log requests (outcome.map f) after := by
  cases polls with
  | answered a all => exact .answered (f a) all
  | refused error first => exact .refused error first
  | overflowed kind part => exact .overflowed kind part

theorem Polls.cons {request : Fetch} {transactions : List LoanTransaction}
    (answer : source.answer log request = .ok transactions)
    (polls : source.Polls (log ++ [request]) requests outcome after)
    : source.Polls log (request :: requests) outcome after := by
  have made (more : List Fetch) : log ++ [request] ++ more = log ++ request :: more :=
    (List.append_cons log request more).symm
  cases polls with
  | answered a all =>
      rw [made]
      exact .answered a ((refusal?_of_ok answer).trans all)
  | refused error first =>
      rw [made, ← asked_of_ok answer]
      exact .refused error ((refusal?_of_ok answer).trans first)
  | overflowed kind part =>
      rw [made]
      refine .overflowed kind ?_
      rw [asked_of_ok answer]
      exact List.cons_prefix_cons.mpr ⟨rfl, part⟩

/-- Apart from an overflow the requests up to the first error are made. -/
theorem Polls.after_eq (polls : source.Polls log requests outcome after)
    (fits : ∀ kind, outcome ≠ .error (.overflowed kind))
    : after = log ++ source.asked log requests := by
  cases polls with
  | answered a all => rw [asked_of_answered all]
  | refused error first => rfl
  | overflowed kind part => exact absurd rfl (fits kind)

/-- At most the requests up to the first error are made. -/
theorem Polls.exists_made (polls : source.Polls log requests outcome after)
    : ∃ made, made <+: source.asked log requests ∧ after = log ++ made := by
  cases polls with
  | answered a all => exact ⟨requests, by rw [asked_of_answered all], rfl⟩
  | refused error first => exact ⟨_, List.prefix_refl _, rfl⟩
  | overflowed kind part => exact ⟨_, part, rfl⟩

-----------------------------------------------------------------------------------------
-- Several plans
-----------------------------------------------------------------------------------------

/-- The requests for several plans in turn, for each of them up to the first one answered with an
error.
-/
def askedInTurn (source : TransactionSource) (log : FetchLog) : List (List Fetch) → List Fetch
  | [] => []
  | requests :: later =>
    source.asked log requests ++ source.askedInTurn (log ++ source.asked log requests) later

theorem askedInTurn_append (source : TransactionSource) (log : FetchLog)
    (front back : List (List Fetch))
    : source.askedInTurn log (front ++ back)
      = source.askedInTurn log front
        ++ source.askedInTurn (log ++ source.askedInTurn log front) back := by
  induction front generalizing log with
  | nil => simp [askedInTurn]
  | cons requests later ih =>
      rw [List.cons_append, askedInTurn, ih, askedInTurn]
      simp only [List.append_assoc]

theorem askedInTurn_singleton (source : TransactionSource) (log : FetchLog)
    (requests : List Fetch)
    : source.askedInTurn log [requests] = source.asked log requests :=
  List.append_nil _

end TransactionSource

end ChargeBasis

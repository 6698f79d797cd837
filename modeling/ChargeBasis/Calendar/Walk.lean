/-! Walks that yield one item at a time and may end by themselves. -/

namespace ChargeBasis

/-- Follows a walk for at most a number of steps, giving the items it yields, in order, and the
state it is left in. -/
def takeSteps {State Item : Type} (next? : State → Option (Item × State))
    : Nat → State → List Item × State
  | 0, state => ([], state)
  | count + 1, state =>
    match next? state with
    | none => ([], state)
    | some (item, state) =>
      let (items, final) := takeSteps next? count state
      (item :: items, final)

/-- No more items than steps are yielded, by induction over the steps. -/
theorem length_takeSteps_le {State Item : Type} (next? : State → Option (Item × State))
    (count : Nat) (state : State)
    : (takeSteps next? count state).1.length ≤ count := by
  induction count generalizing state with
  | zero => simp [takeSteps]
  | succ count ih =>
    unfold takeSteps
    cases next? state with
    | none => exact Nat.zero_le _
    | some step => exact Nat.succ_le_succ (ih step.2)

end ChargeBasis

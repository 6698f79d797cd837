/-!
Rounding a quotient to the nearest integer. A tie rule says where an exact half goes; every
other quotient has one nearest integer.
-/

namespace ChargeBasis

/-- Where a quotient that lies exactly between two integers is rounded to. -/
inductive Tie where
  | toEven
  | awayFromZero
  deriving DecidableEq, Repr

/-- Whether the half above `whole` is rounded down to `whole`. -/
def Tie.keeps : Tie → Nat → Bool
  | .toEven, whole => whole % 2 == 0
  | .awayFromZero, _ => false

/-- The natural number nearest to `n / d`, by the tie rule when two are equally near. -/
def roundDiv (tie : Tie) (n d : Nat) : Nat :=
  if 2 * (n % d) < d ∨ (2 * (n % d) = d ∧ tie.keeps (n / d) = true) then n / d else n / d + 1

/-- Dividing by one rounds nothing. -/
@[simp] theorem roundDiv_one (tie : Tie) (n : Nat)
    : roundDiv tie n 1 = n := by
  simp [roundDiv, Nat.mod_one]

/-- Rounding a quotient by two or more never exceeds the dividend. -/
theorem roundDiv_le (tie : Tie) (n : Nat) {d : Nat} (hd : 2 ≤ d)
    : roundDiv tie n d ≤ n := by
  have whole : n / d * 2 ≤ n / d * d := Nat.mul_le_mul_left _ hd
  have parts := Nat.div_add_mod' n d
  unfold roundDiv
  split <;> omega

end ChargeBasis

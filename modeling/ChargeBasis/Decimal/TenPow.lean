/-! Powers of ten, which the places of a decimal stand for. -/

namespace ChargeBasis

/-- The power of ten with exponent `n`. -/
def tenPow (n : Nat) : Nat :=
  Nat.pow 10 n

/-- No place at all counts as one. -/
theorem tenPow_zero : tenPow 0 = 1 :=
  rfl

/-- One more place is worth ten times as much. -/
theorem tenPow_succ (n : Nat)
    : tenPow (n + 1) = tenPow n * 10 :=
  rfl

/-- A power of ten is never zero. -/
theorem tenPow_pos (n : Nat)
    : 0 < tenPow n :=
  Nat.pow_pos (by decide)

/-- Powers of ten multiply by adding their exponents. -/
theorem tenPow_add (m n : Nat)
    : tenPow (m + n) = tenPow m * tenPow n :=
  Nat.pow_add 10 m n

/-- With at least one place a power of ten is greater than one. -/
theorem two_le_tenPow {n : Nat} (h : 1 ≤ n)
    : 2 ≤ tenPow n :=
  Nat.le_trans (by decide) (Nat.pow_le_pow_right (by decide) h : tenPow 1 ≤ tenPow n)

end ChargeBasis

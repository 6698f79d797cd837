import ChargeBasis.Decimal.Basic

/-!
Sums, differences and products. Each is the exact result brought into bounds; a zero operand is
special, because the other operand is then left as it is. `none` stands for a result whose
integer part is too long.
-/

namespace ChargeBasis.Decimal

/-- The units of `x` counted at a scale that is at least its own. -/
def unitsAt (x : Decimal) (scale : Nat) : Int :=
  x.units * tenPow (scale - x.scale)

/-- The sum; adding zero of any scale to a number leaves the number as it is, and of two zeros the
second is the sum. -/
def add? (x y : Decimal) : Option Decimal :=
  if x.isZero then some y
  else if y.isZero then some x
  else
    let scale := max x.scale y.scale
    let units := x.unitsAt scale + y.unitsAt scale
    fit? (units < 0) units.natAbs scale

/-- The difference, which is the sum with the opposite number. -/
def sub? (x y : Decimal) : Option Decimal :=
  x.add? (-y)

/-- Whether the magnitude is below `2 ^ 32`. -/
def isShort (x : Decimal) : Bool :=
  x.magnitude < UInt32.size

/-- The product; a product of zero has no places, and neither has one of two short numbers that
have more than 47 places together. A product that is rounded to zero loses its sign if both
numbers are short, and keeps it otherwise. -/
def mul? (x y : Decimal) : Option Decimal :=
  if x.isZero || y.isZero then some zero
  else
    let scale := x.scale + y.scale
    let product := fit? (x.negative != y.negative) (x.magnitude * y.magnitude) scale
    if x.isShort && y.isShort then
      if 47 < scale then some zero else product.map unsignZero
    else product

/-- The product with a whole number. -/
def times? (x : Decimal) (n : Int) : Option Decimal :=
  if x.isZero || n == 0 then some zero
  else fit? (x.negative != (n < 0)) (x.magnitude * n.natAbs) x.scale

/-- A number within bounds other than zero has no sign to lose. -/
theorem map_unsignZero_fit? {negative : Bool} {magnitude scale : Nat} (hm : magnitude < limit)
    (hs : scale ≤ maxScale) (nonzero : magnitude ≠ 0)
    : (fit? negative magnitude scale).map unsignZero = fit? negative magnitude scale := by
  rw [fit?_of_bounds hm hs, Option.map_some]
  simp [unsignZero, isNegative, isZero, nonzero]

/-- A product of two short magnitudes is within bounds. -/
theorem mul_lt_limit_of_isShort {x y : Decimal} (hx : x.isShort = true) (hy : y.isShort = true)
    : x.magnitude * y.magnitude < limit :=
  Nat.lt_trans (Nat.mul_lt_mul'' (of_decide_eq_true hx) (of_decide_eq_true hy)) (by decide)

/-- The product with a whole number is that with its decimal. Short numbers are no exception: a
whole number adds no places, and a product within bounds is not cut down to zero. -/
theorem times?_toInt (x : Decimal) (n : Int64)
    : x.times? n.toInt = x.mul? (ofInt64 n) := by
  have none : (ofInt64 n).isZero = (n.toInt == 0) := by
    rw [Bool.eq_iff_iff]
    simp [isZero, ofInt64]
  unfold times? mul?
  rw [none]
  split
  · rfl
  next factors =>
  split
  · next short =>
    obtain ⟨hx, hn⟩ := Bool.and_eq_true_iff.mp short
    have places : ¬47 < x.scale + (ofInt64 n).scale := by
      have bound : x.scale + (ofInt64 n).scale ≤ maxScale := x.scale_le
      unfold maxScale at bound
      omega
    have nonzero : x.magnitude * n.toInt.natAbs ≠ 0 := by
      simpa [isZero, Nat.mul_eq_zero] using factors
    rw [if_neg places]
    exact (map_unsignZero_fit? (mul_lt_limit_of_isShort hx hn) x.scale_le nonzero).symm
  · rfl

end ChargeBasis.Decimal

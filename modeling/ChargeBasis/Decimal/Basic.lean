import ChargeBasis.Decimal.TenPow
import ChargeBasis.Rounding

/-!
Decimal numbers of bounded size. A decimal is a sign and a whole number of units of
`10 ^ -scale`, with a magnitude below `2 ^ 96` and at most 28 places; the scale is part of the
number, so `2.5` and `2.50` are different decimals of the same value. A zero can carry the minus
sign of a number that was cut down to it, which shows in its text and nowhere else. Results that
are too long are brought back into the bounds by dropping last digits.
-/

namespace ChargeBasis

/-- The magnitude of a decimal stays below this many units, which is `2 ^ 96`. -/
def Decimal.limit : Nat := 79228162514264337593543950336

theorem Decimal.limit_sub_one_lt
    : limit - 1 < limit := by
  decide

/-- The most places a decimal can have. -/
def Decimal.maxScale : Nat := 28

/-- A number `magnitude / 10 ^ scale`, or its opposite. -/
structure Decimal where
  negative : Bool
  magnitude : Nat
  scale : Nat
  magnitude_lt : magnitude < Decimal.limit
  scale_le : scale ≤ Decimal.maxScale
  deriving DecidableEq

namespace Decimal

/-- The units with their sign. -/
def units (x : Decimal) : Int :=
  if x.negative then -(x.magnitude : Int) else x.magnitude

/-- The magnitude counts the units whatever their sign. -/
@[simp] theorem natAbs_units (x : Decimal)
    : x.units.natAbs = x.magnitude := by
  unfold units
  split <;> simp

/-- The value that a decimal stands for. -/
def toRat (x : Decimal) : Rat :=
  mkRat x.units (tenPow x.scale)

/-- The decimal without places for the number zero. -/
def zero : Decimal :=
  ⟨false, 0, 0, by decide, by decide⟩

/-- The decimal without places for the number one. -/
def one : Decimal :=
  ⟨false, 1, 0, by decide, by decide⟩

instance : Inhabited Decimal := ⟨zero⟩

/-- The decimal without places for a machine integer. -/
def ofInt64 (n : Int64) : Decimal where
  negative := n.toInt < 0
  magnitude := n.toInt.natAbs
  scale := 0
  magnitude_lt := by
    have lower := n.le_toInt
    have upper := n.toInt_lt
    unfold limit
    omega
  scale_le := Nat.zero_le _

/-- Whether the value is zero, whatever the scale and the sign. -/
def isZero (x : Decimal) : Bool :=
  x.magnitude == 0

/-- Whether the value is below zero, which no zero is. -/
def isNegative (x : Decimal) : Bool :=
  x.negative && !x.isZero

/-- The same scale with the opposite value; a zero is left as it is. -/
def neg (x : Decimal) : Decimal :=
  { x with negative := if x.isZero then x.negative else !x.negative }

instance : Neg Decimal := ⟨neg⟩

/-- The opposite number has the opposite units. -/
@[simp] theorem units_neg (x : Decimal)
    : (-x).units = -x.units := by
  show (neg x).units = -x.units
  by_cases h : x.magnitude = 0
  · simp [units, neg, h]
  · cases hn : x.negative <;> simp [units, neg, isZero, h, hn]

/-- The same number, without a sign if it is zero. -/
def unsignZero (x : Decimal) : Decimal :=
  { x with negative := x.isNegative }

/-- Taking the sign from a zero leaves the value. -/
@[simp] theorem units_unsignZero (x : Decimal)
    : x.unsignZero.units = x.units := by
  by_cases h : x.magnitude = 0
  · simp [units, unsignZero, h]
  · simp [units, unsignZero, isNegative, isZero, h]

/-- Only a zero can lose its sign. -/
theorem unsignZero_of_isZero {x : Decimal} (h : x.isZero = false)
    : x.unsignZero = x := by
  simp [unsignZero, isNegative, h]

/-- The decimal with this sign, this magnitude and this scale, if both are within bounds. -/
def ofMagnitude? (negative : Bool) (magnitude scale : Nat) : Option Decimal :=
  if h : magnitude < limit ∧ scale ≤ maxScale then
    some ⟨negative, magnitude, scale, h.1, h.2⟩
  else none

/-- The decimal with these units and this scale, if both are within bounds. -/
def ofUnits? (units : Int) (scale : Nat) : Option Decimal :=
  ofMagnitude? (units < 0) units.natAbs scale

/-- Within bounds there is a decimal with the units and the scale asked for. -/
theorem exists_ofUnits? {units : Int} {scale : Nat}
    (hu : units.natAbs < limit) (hs : scale ≤ maxScale)
    : ∃ x, ofUnits? units scale = some x ∧ x.units = units ∧ x.scale = scale := by
  refine ⟨⟨units < 0, units.natAbs, scale, hu, hs⟩, ?_, ?_, rfl⟩
  · simp [ofUnits?, ofMagnitude?, hu, hs]
  · simp only [Decimal.units, decide_eq_true_eq]
    split <;> omega

/-- The decimal for a signed `magnitude / 10 ^ scale` after dropping as few last digits as bring
it into bounds; what is dropped is rounded, a half going to the even neighbour, and the sign
stays. There is none when even the integer part is too long. -/
def fit? (negative : Bool) (magnitude scale : Nat) : Option Decimal :=
  (List.range (scale + 1)).findSome? fun dropped =>
    ofMagnitude? negative (roundDiv .toEven magnitude (tenPow dropped)) (scale - dropped)

/-- A number within bounds is kept as it is. -/
theorem fit?_of_bounds {negative : Bool} {magnitude scale : Nat}
    (hm : magnitude < limit) (hs : scale ≤ maxScale)
    : fit? negative magnitude scale = some ⟨negative, magnitude, scale, hm, hs⟩ := by
  simp [fit?, List.range_succ_eq_map, ofMagnitude?, tenPow_zero, hm, hs]

/-- The decimal with at most `places` places nearest to `x` and with its sign; shorter decimals
stay as they are. -/
def cut (tie : Tie) (places : Nat) (x : Decimal) : Decimal :=
  if h : x.scale ≤ places then x
  else
    { negative := x.negative
      magnitude := roundDiv tie x.magnitude (tenPow (x.scale - places))
      scale := places
      magnitude_lt := by
        have two : 2 ≤ tenPow (x.scale - places) := two_le_tenPow (by omega)
        exact Nat.lt_of_le_of_lt (roundDiv_le tie _ two) x.magnitude_lt
      scale_le := Nat.le_trans (Nat.le_of_lt (Nat.lt_of_not_le h)) x.scale_le }

/-- A decimal that was cut has at most the places asked for. -/
theorem scale_cut_le (tie : Tie) (places : Nat) (x : Decimal)
    : (x.cut tie places).scale ≤ places := by
  unfold cut
  split <;> simp_all

/-- The decimal with at most `places` places nearest to `x`; shorter decimals stay as they are.
A number that is rounded to zero loses its sign, while a zero keeps the one it has. -/
def round (tie : Tie) (places : Nat) (x : Decimal) : Decimal :=
  if x.isZero then x.cut tie places else (x.cut tie places).unsignZero

/-- Rounding to at least as many places as there are changes nothing. -/
theorem round_of_scale_le {tie : Tie} {places : Nat} {x : Decimal} (h : x.scale ≤ places)
    : x.round tie places = x := by
  have same : x.cut tie places = x := by simp [cut, h]
  cases hz : x.isZero <;> simp [round, same, hz, unsignZero_of_isZero]

/-- A rounded decimal has at most the places asked for. -/
theorem scale_round_le (tie : Tie) (places : Nat) (x : Decimal)
    : (x.round tie places).scale ≤ places := by
  unfold round
  split <;> exact scale_cut_le tie places x

/-- Decimals are ordered by value, so that trailing zeros and the sign of a zero do not matter. -/
def compare (x y : Decimal) : Ordering :=
  Ord.compare (x.units * tenPow y.scale) (y.units * tenPow x.scale)

end Decimal

end ChargeBasis

import ChargeBasis.Decimal.Basic

/-!
Division with as many places as fit. The quotient of the units is extended by up to nine digits
at a time until it is exact, has 28 places, or leaves no room for another digit; then it is
rounded, and trailing zeros that the extension brought are taken away again.
-/

namespace ChargeBasis.Decimal

/-- A magnitude `units / 10 ^ scale` found by dividing. -/
structure Quotient where
  units : Nat
  scale : Nat
  deriving DecidableEq, Repr

namespace Quotient

/-- The most digits, up to a cap, that can be put behind `units` within bounds. -/
def room (units : Nat) : Nat → Nat
  | 0 => 0
  | digits + 1 => if units * tenPow (digits + 1) < limit then digits + 1 else room units digits

/-- There is never room for more digits than the cap. -/
theorem room_le (units cap : Nat)
    : room units cap ≤ cap := by
  induction cap with
  | zero => simp [room]
  | succ cap ih => unfold room; split <;> omega

/-- Ten units of the last place made one of the place before it; a half goes to the even
neighbour unless `remainder` shows that it is more than a half. There is no place to give up
at scale zero. -/
def giveUpPlace (units remainder : Nat) (scale : Int) : Option Quotient :=
  if scale ≤ 0 then none
  else
    let whole := units / 10
    let last := units % 10
    let up := 5 < last || (last == 5 && (remainder != 0 || whole % 2 == 1))
    some ⟨if up then whole + 1 else whole, (scale - 1).toNat⟩

/-- The quotient rounded in its last place, a half going to the even neighbour. -/
def roundLast (units remainder divisor : Nat) (scale : Int) : Option Quotient :=
  let rounded := roundDiv .toEven (units * divisor + remainder) divisor
  if rounded < limit then some ⟨rounded, scale.toNat⟩ else giveUpPlace rounded 0 scale

/-- Whether eight, four, two or one zeros at the end can be removed; eight are removed only
from multiples of `2 ^ 32`. -/
def endsInZeros (digits : Nat) (q : Quotient) : Bool :=
  q.units % tenPow digits == 0 && digits ≤ q.scale && (digits < 8 || q.units % UInt32.size == 0)

/-- The quotient without that many zeros at the end, if it ends in them. -/
def dropZeros (digits : Nat) (q : Quotient) : Quotient :=
  if endsInZeros digits q then ⟨q.units / tenPow digits, q.scale - digits⟩ else q

/-- The quotient without the zeros that extending it brought: eights as long as they last, which
is three times at most, then four, two and one. -/
def trim (q : Quotient) : Quotient :=
  [8, 8, 8, 4, 2, 1].foldl (fun q digits => q.dropZeros digits) q

/-- Extends the quotient `(units + remainder / divisor) / 10 ^ scale` until it is settled. Only a
quotient that was extended for a remainder is trimmed. -/
def settle (divisor units remainder : Nat) (scale : Int) (extended : Bool) : Option Quotient :=
  if remainder = 0 then
    if 0 ≤ scale then
      let q : Quotient := ⟨units, scale.toNat⟩
      some (if extended then q.trim else q)
    else
      let digits := min 9 (-scale).toNat
      if limit ≤ units * tenPow digits then none
      else settle divisor (units * tenPow digits) 0 (scale + digits) extended
  else
    let digits := room units (min 9 (28 - scale).toNat)
    if digits < 9 ∧ scale + digits < 0 then none
    else if digits = 0 then (roundLast units remainder divisor scale).map trim
    else
      let units' := units * tenPow digits + remainder * tenPow digits / divisor
      let remainder' := remainder * tenPow digits % divisor
      if limit ≤ units' then (giveUpPlace units' remainder' (scale + digits)).map trim
      else settle divisor units' remainder' (scale + digits) true
  termination_by (28 - scale).toNat
  decreasing_by
    · omega
    · have := room_le units (min 9 (28 - scale).toNat)
      omega

end Quotient

/-- The quotient with the sign of `x` over `y`; there is none for a zero divisor, nor when the
integer part is too long. A zero dividend gives a zero without places, and a quotient of zero has
no sign. -/
def div? (x y : Decimal) : Option Decimal :=
  if y.isZero then none
  else if x.isZero then some zero
  else do
    let q ← Quotient.settle y.magnitude (x.magnitude / y.magnitude) (x.magnitude % y.magnitude)
      (x.scale - y.scale) false
    let quotient ← ofMagnitude? (x.negative != y.negative) q.units q.scale
    return quotient.unsignZero

end ChargeBasis.Decimal

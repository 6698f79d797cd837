import ChargeBasis.Decimal.TenPow
import ChargeBasis.Text.Digits

/-!
The shortest decimal that reads back as a binary floating-point number. A number `m * 2 ^ q` is
what every value between the midpoints to its neighbours is rounded to; for each count of digits
the two decimals next to the number are tried, and the first count with a hit wins.
-/

namespace ChargeBasis.Shortest

/-- The values that are rounded to one binary number, as fractions over a common denominator.
The ends belong to them if `closed` says so. -/
structure Interval where
  low : Nat
  value : Nat
  high : Nat
  denominator : Nat
  closed : Bool
  deriving DecidableEq, Repr

/-- The interval of `m * 2 ^ q`. Below a power of two the numbers lie twice as dense, which
`narrow` tells; a half is rounded to an even `m`. -/
def Interval.of (m : Nat) (q : Int) (narrow : Bool) : Interval :=
  let places := (q - 2).toNat
  { low := (4 * m - if narrow then 1 else 2) <<< places
    value := (4 * m) <<< places
    high := (4 * m + 2) <<< places
    denominator := 1 <<< (2 - q).toNat
    closed := m % 2 == 0 }

/-- A decimal `digits * 10 ^ exponent`. -/
structure Decimals where
  digits : Nat
  exponent : Int
  deriving DecidableEq, Repr

namespace Interval

/-- A fraction of the interval as a multiple of `10 ^ exponent`, given by numerator and
denominator. -/
def onGrid (interval : Interval) (n : Nat) (exponent : Int) : Nat × Nat :=
  (n * tenPow (-exponent).toNat, interval.denominator * tenPow exponent.toNat)

/-- Whether `digits * 10 ^ exponent` is rounded to the number. -/
def contains (interval : Interval) (digits : Nat) (exponent : Int) : Bool :=
  let (low, denominator) := interval.onGrid interval.low exponent
  let (high, _) := interval.onGrid interval.high exponent
  let point := digits * denominator
  if interval.closed then low ≤ point && point ≤ high else low < point && point < high

/-- The number of digits before the point of the value; zero or less counts the zeros behind the
point. -/
def magnitude (interval : Interval) : Int :=
  let whole := interval.value / interval.denominator
  if 0 < whole then ((Digits.ofNat whole).length : Int)
  else
    match (List.range 400).find? fun j => interval.denominator ≤ interval.value * tenPow j with
    | some j => 1 - (j : Int)
    | none => 0

/-- The decimal with `count` digits that is rounded to the number and is nearest to it; of two
equally near ones the larger. One that has grown by a digit is a power of ten. -/
def nearest? (interval : Interval) (count : Nat) : Option Decimals :=
  let exponent := interval.magnitude - count
  let (value, denominator) := interval.onGrid interval.value exponent
  let below := value / denominator
  let above := below + 1
  let preferAbove := denominator ≤ 2 * (value % denominator)
  let candidates := if preferAbove then [above, below] else [below, above]
  (candidates.find? fun digits => interval.contains digits exponent).map fun digits =>
    if digits = tenPow count then ⟨tenPow (count - 1), exponent + 1⟩ else ⟨digits, exponent⟩

/-- The shortest decimal that is rounded to the number. -/
def shortest (interval : Interval) : Decimals :=
  ((List.range 17).findSome? fun n => interval.nearest? (n + 1)).getD ⟨0, 0⟩

end Interval

/-- The digits without an exponent: zeros behind them, or as many places as the exponent asks
for. -/
def Decimals.chars (d : Decimals) : List Char :=
  let places := (-d.exponent).toNat
  let whole := Digits.ofNat (d.digits * tenPow d.exponent.toNat / tenPow places)
  if places = 0 then whole
  else whole ++ '.' :: Digits.padded places (d.digits % tenPow places)

/-- The bit in front of the 52 bits of a binary fraction. -/
def hiddenBit : Nat := 4503599627370496

/-- The shortest decimal for the magnitude of a finite binary number. -/
def ofFloat (x : Float) : Decimals :=
  let bits := x.toBits.toNat
  let fraction : Nat := bits % hiddenBit
  let exponent : Nat := bits / hiddenBit % 2048
  if exponent = 0 then
    if fraction = 0 then ⟨0, 0⟩ else (Interval.of fraction (-1074) false).shortest
  else
    let narrow := fraction == 0 && 1 < exponent
    (Interval.of (hiddenBit + fraction) ((exponent : Int) - 1075) narrow).shortest

end ChargeBasis.Shortest

import ChargeBasis.Decimal.Text

/-!
Amounts of money. An amount is a decimal, and every operation rounds its result to eight places,
a half going to the even neighbour. An amount that was loaded may have more places until an
operation touches it. An operation overflows when the exact result is too long for a decimal.
-/

namespace ChargeBasis

/-- The kind of operation whose result was too long for a decimal. -/
inductive Overflow where
  | addition
  | subtraction
  | multiplication
  deriving DecidableEq, Repr

/-- The wording of an overflow. -/
def Overflow.message : Overflow → String
  | .addition => "Addition overflowed"
  | .subtraction => "Subtraction overflowed"
  | .multiplication => "Multiplication overflowed"

/-- An amount of money. -/
structure Money where
  amount : Decimal
  deriving DecidableEq, Inhabited

namespace Money

/-- The places kept by every operation. -/
def workingPlaces : Nat := 8

theorem workingPlaces_le_maxScale
    : workingPlaces ≤ Decimal.maxScale := by
  decide

/-- The value of an amount. -/
def toRat (m : Money) : Rat :=
  m.amount.toRat

/-- No money, without places. -/
def zero : Money := ⟨.zero⟩

/-- One unit of money, without places. -/
def one : Money := ⟨.one⟩

/-- The amount nearest to a decimal among those with the places kept. -/
def ofDecimal (x : Decimal) : Money :=
  ⟨x.round .toEven workingPlaces⟩

/-- An amount made from a decimal has at most the places kept. -/
theorem scale_ofDecimal_le (x : Decimal)
    : (ofDecimal x).amount.scale ≤ workingPlaces :=
  Decimal.scale_round_le .toEven workingPlaces x

/-- A whole number of currency units. -/
def ofMajor (n : Int64) : Money :=
  ⟨.ofInt64 n⟩

/-- Reads an amount and rounds it to the places kept. -/
def parse (s : String) : Except Decimal.ParseError Money :=
  (Decimal.parse s).map ofDecimal

/-- The text of an amount, with all its places. -/
def text (m : Money) : String :=
  m.amount.text

/-- Whether the amount is zero, whatever its scale. -/
def isZero (m : Money) : Bool :=
  m.amount.isZero

/-- Whether the amount is below zero. -/
def isNegative (m : Money) : Bool :=
  m.amount.isNegative

/-- Rounds an exact result to the places kept, or reports the overflow. -/
def settle (kind : Overflow) : Option Decimal → Except Overflow Money
  | some x => .ok (ofDecimal x)
  | none => .error kind

/-- The sum of two amounts. -/
def add (a b : Money) : Except Overflow Money :=
  settle .addition (a.amount.add? b.amount)

/-- The difference of two amounts. -/
def sub (a b : Money) : Except Overflow Money :=
  settle .subtraction (a.amount.sub? b.amount)

/-- The product of an amount and a factor. -/
def mul (a : Money) (factor : Decimal) : Except Overflow Money :=
  settle .multiplication (a.amount.mul? factor)

/-- The amount held for a number of days, one term of a time-weighted sum. -/
def weightedByDays (a : Money) (days : Int) : Except Overflow Money :=
  settle .multiplication (a.amount.times? days)

/-- Holding an amount for a number of days multiplies it by that number. -/
theorem weightedByDays_toInt (a : Money) (days : Int64)
    : a.weightedByDays days.toInt = a.mul (.ofInt64 days) := by
  rw [weightedByDays, mul, Decimal.times?_toInt]

/-- The amount rounded to some places, a half going to the even neighbour. -/
def round (a : Money) (places : Nat) : Money :=
  ⟨a.amount.round .toEven places⟩

/-- The sum of a list of amounts, added from the front, starting with nothing. -/
def sum (amounts : List Money) : Except Overflow Money :=
  amounts.foldlM add zero

/-- Amounts are ordered by value. -/
def compare (a b : Money) : Ordering :=
  a.amount.compare b.amount

/-- The smaller of two amounts, the first of equal ones. -/
def min (a b : Money) : Money :=
  if b.compare a = .lt then b else a

/-- The larger of two amounts, the second of equal ones. -/
def max (a b : Money) : Money :=
  if b.compare a = .lt then a else b

end Money

end ChargeBasis

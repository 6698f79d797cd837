/-! Decimal digits of natural numbers and integers, and the value of a run of digits. -/

namespace ChargeBasis.Digits

/-- The decimal digits of `n`, most significant first and without leading zeros. -/
def ofNat (n : Nat) : List Char :=
  Nat.toDigits 10 n

/-- The digits of `n` with zeros in front up to `width` places. -/
def padded (width n : Nat) : List Char :=
  List.replicate (width - (ofNat n).length) '0' ++ ofNat n

/-- The digits of `n` behind a minus sign when it is negative. -/
def ofInt : Int → List Char
  | .ofNat n => ofNat n
  | .negSucc n => '-' :: ofNat (n + 1)

/-- The number that a digit stands for; any other character stands for none. -/
def digit? (c : Char) : Option Nat :=
  if c.isDigit then some (c.toNat - '0'.toNat) else none

/-- The value of a run of digits read in base ten. -/
def value (digits : List Char) : Nat :=
  Nat.ofDigitChars 10 digits 0

/-- Reads a text that consists of one or more digits and nothing else. -/
def toNat? (cs : List Char) : Option Nat :=
  if !cs.isEmpty && cs.all Char.isDigit then some (value cs) else none

/-- The decimal text of a natural number. -/
def text (n : Nat) : String :=
  String.ofList (ofNat n)

/-- The decimal text of an integer. -/
def intText (n : Int) : String :=
  String.ofList (ofInt n)

/-- Printed digits read back to the number. -/
theorem value_ofNat (n : Nat)
    : value (ofNat n) = n :=
  Nat.ofDigitChars_toDigits (by decide) (by decide)

/-- Only digits are printed. -/
theorem isDigit_of_mem_ofNat {n : Nat} {c : Char} (h : c ∈ ofNat n)
    : c.isDigit = true :=
  Nat.isDigit_of_mem_toDigits (by decide) (by decide) h

end ChargeBasis.Digits

import ChargeBasis.Decimal.Division
import ChargeBasis.Money.Basic

/-! Quotients rounded half up, and the faults that a division or a product can have. -/

namespace ChargeBasis

/-- Why a quotient or a product could not be formed. -/
inductive CalculationFault where
  | divisionByZero (dividend : Decimal)
  | divisionOverflow (dividend divisor : Decimal)
  | multiplicationOverflow (factor multiplicand : Decimal)
  deriving DecidableEq

/-- The wording of a calculation fault. -/
def CalculationFault.message : CalculationFault → String
  | .divisionByZero x => "division of " ++ x.text ++ " by zero"
  | .divisionOverflow x y => "overflow dividing " ++ x.text ++ " by " ++ y.text
  | .multiplicationOverflow x y => "overflow multiplying " ++ x.text ++ " by " ++ y.text

/-- The quotient rounded to some places, a half going away from zero. -/
def Decimal.divideHalfUp (x divisor : Decimal) (places : Nat)
    : Except CalculationFault Decimal :=
  match x.div? divisor with
  | some quotient => .ok (quotient.round .awayFromZero places)
  | none => .error (.divisionOverflow x divisor)

/-- The amount divided by a number other than zero and rounded half up. -/
def Money.divideHalfUp (a : Money) (divisor : Decimal) (places : Nat)
    : Except CalculationFault Money :=
  if divisor.isZero then .error (.divisionByZero a.amount)
  else (a.amount.divideHalfUp divisor places).map .mk

/-- A factor that is present and not zero. -/
def Decimal.effective (factor : Option Decimal) : Option Decimal :=
  factor.filter fun x => !x.isZero

/-- Divides, rounding half up, and then multiplies; a factor that is absent or zero is left out.
An absent operand gives one, so that the result can be used as a neutral factor. -/
def Decimal.divideThenMultiply (operand divisor multiplicand : Option Decimal) (places : Nat)
    : Except CalculationFault Decimal :=
  match operand with
  | none => .ok .one
  | some value => do
    let quotient ←
      match effective divisor with
      | some divisor => value.divideHalfUp divisor places
      | none => .ok value
    match effective multiplicand with
    | some factor =>
      match quotient.mul? factor with
      | some product => .ok product
      | none => .error (.multiplicationOverflow quotient factor)
    | none => .ok quotient

end ChargeBasis

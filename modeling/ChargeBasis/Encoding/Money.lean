import ChargeBasis.Decimal.Shortest
import ChargeBasis.Json.Approximation
import ChargeBasis.Json.Decode
import ChargeBasis.Money.Basic

/-!
Amounts of money as JSON: written as a text with all places, read from such a text or from a
number. Loading an amount does not round it to the places that operations keep.
-/

namespace ChargeBasis

/-- The decimal that a JSON number stands for: a machine integer exactly, any other number by the
shortest decimal of its binary approximation. -/
def Json.Numeral.toDecimal? (n : Json.Numeral) : Option Decimal :=
  match n.toInt?.filter fun i => -9223372036854775808 ≤ i && i < 18446744073709551616 with
  | some i => Decimal.ofUnits? i 0
  | none => do
    let digits := (Shortest.ofFloat (← n.magnitude?)).chars
    (Decimal.parse (String.ofList (if n.negative then '-' :: digits else digits))).toOption

namespace Money

/-- The JSON value of an amount. -/
def toJson (m : Money) : Json :=
  .text m.text

/-- Reads an amount from JSON. -/
def ofJson : Json.Decoder Money
  | .text s =>
    match Decimal.parse s with
    | .ok x => .ok ⟨x⟩
    | .error _ => .error .unexpected
  | .number n =>
    match n.toDecimal? with
    | some x => .ok ⟨x⟩
    | none => .error .unexpected
  | _ => .error .unexpected

end Money

end ChargeBasis

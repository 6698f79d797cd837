import ChargeBasis.Json.Basic
import ChargeBasis.Json.Reader

/-!
Numbers with a point, an exponent or too many digits as binary floating-point numbers. The first
digits that fit in 64 bits are converted and then multiplied or divided by a power of ten, so the
result can differ in the last bit from the number nearest to what was written.
-/

namespace ChargeBasis.Json

namespace Numeral

/-- Appends digits to a number as long as it stays below `2 ^ 64`, and counts the digits. -/
def absorb (acc : Nat) : List Char → Nat × Nat
  | [] => (acc, 0)
  | c :: rest =>
    let next := acc * 10 + (Digits.digit? c).getD 0
    if next < UInt64.size then
      let (result, count) := absorb next rest
      (result, count + 1)
    else (acc, 0)

/-- The digits that count and the power of ten they are multiplied by. Digits of the whole part
that do not count are replaced by zeros, those of the fraction are left out. -/
def significant (n : Numeral) : Nat × Int :=
  let (whole, taken) := absorb 0 n.whole
  let (all, places) := absorb whole n.fraction
  let exponent : Int :=
    match n.exponent with
    | none => 0
    | some e => if e.negative then -(Digits.value e.digits : Int) else Digits.value e.digits
  (all, (n.whole.length - taken : Nat) - (places : Int) + exponent)

/-- The largest power of ten that is multiplied or divided by in one step. -/
def largestPower : Nat := 308

/-- Multiplies by a power of ten. There is no result when it would be infinite. -/
def scaled (x : Float) (exponent : Int) : Option Float :=
  if exponent.natAbs ≤ largestPower then
    let power := Float.ofScientific 1 false exponent.natAbs
    if 0 ≤ exponent then
      let product := x * power
      if product.isInf then none else some product
    else some (x / power)
  else if x == 0 then some x
  else if 0 ≤ exponent then none
  else scaled (x / Float.ofScientific 1 false largestPower) (exponent + largestPower)
  termination_by exponent.natAbs
  decreasing_by
    simp only [largestPower] at *
    omega

/-- The binary number for the magnitude of a numeral. -/
def magnitude? (n : Numeral) : Option Float :=
  let (digits, exponent) := n.significant
  scaled digits.toUInt64.toFloat exponent

end Numeral

mutual

/-- Whether a strict reader accepts a value inside `depth` further levels: every number is finite,
every text has characters, and arrays and objects do not nest more deeply. -/
def isStrict (depth : Nat) : Json → Bool
  | .number value => value.magnitude?.isSome
  | .array items => 0 < depth && itemsAreStrict (depth - 1) items
  | .object members => 0 < depth && membersAreStrict (depth - 1) members
  | .unreadable => false
  | _ => true

/-- Whether a strict reader accepts all items. -/
def itemsAreStrict (depth : Nat) : List Json → Bool
  | [] => true
  | item :: items => isStrict depth item && itemsAreStrict depth items

/-- Whether a strict reader accepts the values of all members. -/
def membersAreStrict (depth : Nat) : List (String × Json) → Bool
  | [] => true
  | (_, value) :: members => isStrict depth value && membersAreStrict depth members

end

/-- Whether a text is JSON that a strict reader accepts, with at most 127 levels. -/
def isStrictText (s : String) : Bool :=
  match parse s with
  | some value => value.isStrict 127
  | none => false

end ChargeBasis.Json

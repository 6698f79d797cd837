import ChargeBasis.Text.Digits

/-!
JSON values. Numbers keep the digits they were written with, and objects keep the order and the
repetition of their members, because what a value is read as decides whether these matter.
-/

namespace ChargeBasis

/-- The exponent of a number: its sign and its digits. -/
structure Json.Exponent where
  negative : Bool
  digits : List Char
  deriving DecidableEq, Repr

/-- A number as it is written: a sign, the digits of the whole part, the digits behind the
point (none without a point), and the exponent. -/
structure Json.Numeral where
  negative : Bool
  whole : List Char
  fraction : List Char
  exponent : Option Json.Exponent
  deriving DecidableEq, Repr

/-- A JSON value. A text with an escape that names no character is unreadable, and so is an object
with such a key; they are well formed, but no characters can be taken from them. -/
inductive Json where
  | null
  | bool (value : Bool)
  | number (value : Json.Numeral)
  | text (value : String)
  | array (items : List Json)
  | object (members : List (String × Json))
  | unreadable
  deriving Inhabited

namespace Json

namespace Numeral

/-- The number without sign, point and exponent. -/
def ofNat (n : Nat) : Numeral :=
  ⟨false, Digits.ofNat n, [], none⟩

/-- The integer without point and exponent. -/
def ofInt : Int → Numeral
  | .ofNat n => ofNat n
  | .negSucc n => { ofNat (n + 1) with negative := true }

/-- The integer that a numeral without point and exponent stands for; a zero with a sign stands
for none. -/
def toInt? (n : Numeral) : Option Int :=
  if n.fraction.isEmpty && n.exponent.isNone then
    let magnitude := Digits.value n.whole
    if n.negative then (if magnitude = 0 then none else some (-(magnitude : Int)))
    else some magnitude
  else none

/-- The numeral of a natural number stands for it. -/
theorem toInt?_ofNat (n : Nat)
    : (ofNat n).toInt? = some (n : Int) := by
  simp [ofNat, toInt?, Digits.value_ofNat]

/-- The numeral of an integer stands for it, by cases on the sign. -/
theorem toInt?_ofInt (n : Int)
    : (ofInt n).toInt? = some n := by
  cases n with
  | ofNat n => exact toInt?_ofNat n
  | negSucc n => simp [ofInt, ofNat, toInt?, Digits.value_ofNat, Int.negSucc_eq]

/-- The characters of a numeral. -/
def chars (n : Numeral) : List Char :=
  (if n.negative then ['-'] else []) ++ n.whole
    ++ (if n.fraction.isEmpty then [] else '.' :: n.fraction)
    ++ match n.exponent with
      | none => []
      | some e => 'e' :: ((if e.negative then ['-'] else []) ++ e.digits)

/-- Whether the digits can stand before the point: at least one, without surplus zeros. -/
def isWhole : List Char → Bool
  | [] => false
  | [_] => true
  | c :: _ => c != '0'

/-- Reads the fraction behind the whole part: none without a point. -/
def readFraction (cs : List Char) : Option (List Char × List Char) :=
  match cs with
  | '.' :: rest =>
    let digits := rest.takeWhile Char.isDigit
    if digits.isEmpty then none else some (digits, rest.dropWhile Char.isDigit)
  | _ => some ([], cs)

/-- Reads the exponent at the end of a numeral: none at all, or a mark, a sign and digits. -/
def readExponent : List Char → Option (Option Exponent)
  | [] => some none
  | mark :: rest =>
    if mark = 'e' ∨ mark = 'E' then
      let (negative, digits) :=
        match rest with
        | '-' :: digits => (true, digits)
        | '+' :: digits => (false, digits)
        | digits => (false, digits)
      if !digits.isEmpty && digits.all Char.isDigit then some (some ⟨negative, digits⟩) else none
    else none

/-- Reads a numeral that is the whole text. -/
def ofChars? (cs : List Char) : Option Numeral := do
  let (negative, unsigned) :=
    match cs with
    | '-' :: rest => (true, rest)
    | _ => (false, cs)
  let whole := unsigned.takeWhile Char.isDigit
  if !isWhole whole then none
  let (fraction, rest) ← readFraction (unsigned.dropWhile Char.isDigit)
  let exponent ← readExponent rest
  return ⟨negative, whole, fraction, exponent⟩

end Numeral

/-- The number for a natural number. -/
def ofNat (n : Nat) : Json :=
  .number (.ofNat n)

/-- The number for an integer. -/
def ofInt (n : Int) : Json :=
  .number (.ofInt n)

end Json

end ChargeBasis

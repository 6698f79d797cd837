import ChargeBasis.Decimal.Arithmetic
import ChargeBasis.Text.Digits

/-!
Decimal text. A decimal is printed with all its places. Reading takes an optional sign, digits
with an optional point among them and underscores between them, and an optional power of ten;
digits for which there is no room are rounded away. A number read as zero has no sign, unless it
was its exponent that made it so small.
-/

namespace ChargeBasis.Decimal

/-- The characters of a decimal: its sign, and exactly as many places as its scale. -/
def chars (x : Decimal) : List Char :=
  let whole := Digits.ofNat (x.magnitude / tenPow x.scale)
  let places :=
    if x.scale = 0 then []
    else '.' :: Digits.padded x.scale (x.magnitude % tenPow x.scale)
  (if x.negative then ['-'] else []) ++ whole ++ places

/-- The text of a decimal. -/
def text (x : Decimal) : String :=
  String.ofList x.chars

instance : ToString Decimal := ⟨text⟩

/-- Why a text is not a decimal. -/
inductive ParseError where
  | empty
  | noDigits
  | secondPoint
  | leadingSeparator
  | unknownCharacter
  | tooManyDigits
  | roundedTooLong
  | malformedExponent
  | exponentTooLarge (exponent : Nat)
  | tooLarge
  deriving DecidableEq, Repr

/-- The wording of a reading error. -/
def ParseError.message : ParseError → String
  | .empty => "Invalid decimal: empty"
  | .noDigits => "Invalid decimal: no digits found"
  | .secondPoint => "Invalid decimal: two decimal points"
  | .leadingSeparator => "Invalid decimal: must start lead with a number"
  | .unknownCharacter => "Invalid decimal: unknown character"
  | .tooManyDigits => "Invalid decimal: overflow from too many digits"
  | .roundedTooLong => "Invalid decimal: overflow from mantissa after rounding"
  | .malformedExponent => "Failed to parse"
  | .exponentTooLarge exponent =>
    "Scale exceeds the maximum precision allowed: " ++ Digits.text exponent ++ " > 28"
  | .tooLarge => "Number exceeds maximum value that can be represented."

/-- What has been read of a decimal: its units and places, and whether a point and a digit have
come by. -/
structure Partial where
  units : Nat
  scale : Nat
  point : Bool
  started : Bool
  deriving DecidableEq, Repr

/-- The fault of a character that cannot stand where it was found. -/
def ParseError.ofChar : Char → ParseError
  | '.' => .secondPoint
  | '_' => .leadingSeparator
  | _ => .unknownCharacter

/-- The first character of a run of surplus digits that is neither digit nor underscore. -/
def surplusFault? (cs : List Char) : Option ParseError :=
  (cs.find? fun c => !(c.isDigit || c == '_')).map .ofChar

/-- Ends a number for whose next digit there is no room: that digit alone decides the rounding,
five going up, and the rest has to be digits. An underscore in its place counts as a zero. -/
def roundOff (units scale : Nat) (next : Char) (rest : List Char)
    : Except ParseError (Nat × Nat) := do
  let digit ←
    match Digits.digit? next with
    | some digit => pure digit
    | none => if next = '_' then pure 0 else throw (.ofChar next)
  let rounded := if 5 ≤ digit then units + 1 else units
  let result ←
    if rounded < limit then pure (rounded, scale)
    else if scale = 0 then throw .roundedTooLong
    else pure ((rounded + 4) / 10, scale - 1)
  match surplusFault? rest with
  | some fault => throw fault
  | none => pure result

/-- A number is long when its units were at least this many before the last digit came. The bound
lies 255 below a tenth of the largest 64-bit number. -/
def longFrom : Nat := 1844674407370954906

/-- Whether an underscore behind the last possible place is skipped, so that the digit behind it
decides the rounding; that is so in long numbers only. -/
def Partial.skipsUnderscore (seen : Partial) : Bool :=
  longFrom ≤ seen.units / 10

/-- Reads the digits of a number up to the end of the text, giving units and scale. -/
def readDigits (seen : Partial) : List Char → Except ParseError (Nat × Nat)
  | [] => if seen.started then .ok (seen.units, seen.scale) else .error .noDigits
  | c :: rest =>
    if seen.scale = maxScale then
      if c = '_' && seen.skipsUnderscore then readDigits seen rest
      else roundOff seen.units seen.scale c rest
    else
      match Digits.digit? c with
      | some digit =>
        let units := seen.units * 10 + digit
        if units < limit then
          let scale := if seen.point then seen.scale + 1 else 0
          readDigits { seen with units, scale, started := true } rest
        else if seen.point then roundOff seen.units seen.scale c rest
        else .error .tooManyDigits
      | none =>
        if c = '.' && !seen.point then readDigits { seen with point := true } rest
        else if c = '_' && seen.started then readDigits seen rest
        else .error (.ofChar c)

/-- Reads a text without exponent. -/
def readPlain (cs : List Char) : Except ParseError Decimal := do
  let (negative, digits) :=
    match cs with
    | '-' :: rest => (true, rest)
    | '+' :: rest => (false, rest)
    | _ => (false, cs)
  if cs.isEmpty then throw .empty
  let (units, scale) ← readDigits ⟨0, 0, false, false⟩ digits
  match ofUnits? (if negative then -units else units) scale with
  | some x => pure x
  | none => throw .tooLarge

/-- Whether a character opens the exponent. -/
def isExponentMark (c : Char) : Bool :=
  c == 'e' || c == 'E'

/-- Reads the digits of an exponent, whose value has to be below `2 ^ 32`. -/
def readExponent (cs : List Char) : Except ParseError Nat :=
  let digits :=
    match cs with
    | '+' :: rest => rest
    | _ => cs
  match Digits.toNat? digits with
  | some exponent => if exponent < UInt32.size then .ok exponent else .error .malformedExponent
  | none => .error .malformedExponent

/-- Moves the point `places` to the left. A number that would get more than 28 places is first
cut so far that it does not, a half going away from zero; it keeps its sign even if nothing else
is left of it. -/
def shiftLeft (x : Decimal) (places : Nat) : Except ParseError Decimal :=
  if maxScale < places then .error (.exponentTooLarge places)
  else
    let y := x.cut .awayFromZero (maxScale - places)
    match ofMagnitude? y.negative y.magnitude (y.scale + places) with
    | some z => .ok z
    | none => .error .tooLarge

/-- Moves the point `places` to the right; beyond the places there are, zeros are put behind the
number. -/
def shiftRight (x : Decimal) (places : Nat) : Except ParseError Decimal :=
  if places ≤ x.scale then
    match ofMagnitude? x.negative x.magnitude (x.scale - places) with
    | some z => .ok z
    | none => .error .tooLarge
  else if maxScale < places then .error (.exponentTooLarge places)
  else
    match ofMagnitude? x.negative (x.magnitude * tenPow (places - x.scale)) 0 with
    | some z => .ok z
    | none => .error .tooLarge

/-- Reads a text that has an exponent mark: a number, the mark, and a power of ten. -/
def readScientific (cs : List Char) : Except ParseError Decimal := do
  let base ← readPlain (cs.takeWhile fun c => !isExponentMark c)
  match (cs.dropWhile fun c => !isExponentMark c).drop 1 with
  | '-' :: digits => base.shiftLeft (← readExponent digits)
  | digits => base.shiftRight (← readExponent digits)

/-- Reads a decimal. -/
def parse (s : String) : Except ParseError Decimal :=
  let cs := s.toList
  match readPlain cs with
  | .ok x => .ok x
  | .error fault => if cs.any isExponentMark then readScientific cs else .error fault

end ChargeBasis.Decimal

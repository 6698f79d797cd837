import ChargeBasis.Calendar.Date
import ChargeBasis.Text.Blank
import ChargeBasis.Text.Digits

/-!
Dates as text: `YYYY-MM-DD`, and day, month abbreviation and year, as in `31 Mar 2024`. Reading
skips blanks before each number. A year without a sign has at most four digits, a year with a
sign any number of them.
-/

namespace ChargeBasis

/-- Why a text is not a date. -/
inductive DateTextFault where
  | invalidCharacters
  | prematureEnd
  | outOfRange
  | trailingInput
  deriving DecidableEq, Repr

/-- The wording of a fault in a date. -/
def DateTextFault.message : DateTextFault → String
  | .invalidCharacters => "input contains invalid characters"
  | .prematureEnd => "premature end of input"
  | .outOfRange => "input is out of range"
  | .trailingInput => "trailing input"

namespace DateText

/-- A reader of the front of a text gives what it read and the rest of the text. -/
abbrev Reader (α : Type) := List Char → Except DateTextFault (α × List Char)

/-- The numbers in a date stay below this bound, which is `2 ^ 63`. -/
def numberLimit : Nat := 9223372036854775808

/-- Reads a number of at most `width` digits, or of any length. -/
def number (width : Option Nat) : Reader Nat := fun cs =>
  let run := cs.takeWhile Char.isDigit
  let digits :=
    match width with
    | some width => run.take width
    | none => run
  if digits.isEmpty then .error (if cs.isEmpty then .prematureEnd else .invalidCharacters)
  else if numberLimit ≤ Digits.value digits then .error .outOfRange
  else .ok (Digits.value digits, cs.drop digits.length)

/-- Reads a number of one or two digits after blanks. -/
def twoDigits : Reader Nat := fun cs =>
  number (some 2) (Text.trimStart cs)

/-- Reads a year after blanks. -/
def year : Reader Int := fun cs =>
  match Text.trimStart cs with
  | '-' :: rest => (number none rest).map fun (n, rest) => (-(n : Int), rest)
  | '+' :: rest => (number none rest).map fun (n, rest) => ((n : Int), rest)
  | cs => (number (some 4) cs).map fun (n, rest) => ((n : Int), rest)

/-- Reads one given character after blanks. -/
def mark (c : Char) : Reader Unit := fun cs =>
  match Text.trimStart cs with
  | [] => .error .prematureEnd
  | d :: rest => if d = c then .ok ((), rest) else .error .invalidCharacters

/-- Reads the abbreviation of a month, in any case, after blanks. -/
def monthAbbreviation : Reader Month := fun cs =>
  let cs := Text.trimStart cs
  if cs.length < 3 then .error .prematureEnd
  else
    match Month.all.find? fun month =>
      Month.sameLetters (cs.take 3) month.abbreviation.toList with
    | some month => .ok (month, cs.drop 3)
    | none => .error .invalidCharacters

/-- A date that has to exist. -/
def existing : Option Date → Except DateTextFault Date
  | some d => .ok d
  | none => .error .outOfRange

/-- Reads year, month and day with dashes between them. -/
def isoDate : Reader Date := fun cs => do
  let (y, cs) ← year cs
  let ((), cs) ← mark '-' cs
  let (m, cs) ← twoDigits cs
  let ((), cs) ← mark '-' cs
  let (d, cs) ← twoDigits cs
  return (← existing (Date.ofNumbers? y m d), cs)

end DateText

namespace Date

/-- Reads a text `YYYY-MM-DD`, which blanks may follow. -/
def parse (s : String) : Except DateTextFault Date := do
  let (d, rest) ← DateText.isoDate s.toList
  if (Text.trimStart rest).isEmpty then return d else throw .trailingInput

/-- Reads a text like `31 Mar 2024`, up to its end. -/
def parseDayMonthYear (s : String) : Except DateTextFault Date := do
  let (d, cs) ← DateText.twoDigits s.toList
  let (m, cs) ← DateText.monthAbbreviation cs
  let (y, cs) ← DateText.year cs
  if !cs.isEmpty then throw .trailingInput
  DateText.existing (Date.of? y m d)

/-- The digits of a year: four of them, or a sign and at least four for years that four digits
do not hold. -/
def yearChars (year : Int) : List Char :=
  if 0 ≤ year ∧ year ≤ 9999 then Digits.padded 4 year.natAbs
  else (if year < 0 then '-' else '+') :: Digits.padded 4 year.natAbs

/-- The text `YYYY-MM-DD` of a date. -/
def text (d : Date) : String :=
  String.ofList (yearChars d.year ++ '-' :: Digits.padded 2 d.month.number
    ++ '-' :: Digits.padded 2 d.day)

instance : ToString Date := ⟨text⟩

end Date

end ChargeBasis

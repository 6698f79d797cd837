/-! The twelve months: their numbers, English names and lengths, and the texts that name them. -/

namespace ChargeBasis

/-- A month of the year. -/
inductive Month where
  | january | february | march | april | may | june
  | july | august | september | october | november | december
  deriving DecidableEq, Repr

namespace Month

/-- The months in the order of the year. -/
def all : List Month :=
  [january, february, march, april, may, june,
    july, august, september, october, november, december]

/-- The place of a month in the year, from one to twelve. -/
def number : Month → Nat
  | january => 1 | february => 2 | march => 3 | april => 4 | may => 5 | june => 6
  | july => 7 | august => 8 | september => 9 | october => 10 | november => 11 | december => 12

/-- The month at a place in the year. -/
def ofNumber? (n : Nat) : Option Month :=
  all.find? fun month => month.number == n

/-- The English name. -/
def name : Month → String
  | january => "January" | february => "February" | march => "March" | april => "April"
  | may => "May" | june => "June" | july => "July" | august => "August"
  | september => "September" | october => "October" | november => "November"
  | december => "December"

/-- The first three letters of the English name. -/
def abbreviation (month : Month) : String :=
  String.ofList (month.name.toList.take 3)

/-- The month after this one in the same year. -/
def next? : Month → Option Month
  | january => some february | february => some march | march => some april
  | april => some may | may => some june | june => some july
  | july => some august | august => some september | september => some october
  | october => some november | november => some december | december => none

/-- The month before this one in the same year. -/
def previous? : Month → Option Month
  | january => none | february => some january | march => some february
  | april => some march | may => some april | june => some may
  | july => some june | august => some july | september => some august
  | october => some september | november => some october | december => some november

/-- The number of days in the month, in a leap year or a common year. -/
def length (leap : Bool) : Month → Nat
  | january | march | may | july | august | october | december => 31
  | april | june | september | november => 30
  | february => if leap then 29 else 28

/-- The number of days in the year before the month starts. -/
def daysBefore (leap : Bool) (month : Month) : Nat :=
  (all.take (month.number - 1)).foldl (fun days earlier => days + earlier.length leap) 0

/-- Whether two texts differ at most in the case of ASCII letters. -/
def sameLetters (a b : List Char) : Bool :=
  a.map Char.toLower == b.map Char.toLower

end Month

-------------------------------------------------------------------------------
-- Names in a text

namespace Text

/-- The bytes of a text. -/
def bytes (text : String) : List UInt8 :=
  text.toList.flatMap String.utf8EncodeChar

/-- The bit in which a small ASCII letter differs from the capital one. -/
def caseBit : UInt8 := 32

/-- A byte with an ASCII capital made small. -/
def lowered (byte : UInt8) : UInt8 :=
  if 65 ≤ byte ∧ byte ≤ 90 then byte ||| caseBit else byte

end Text

namespace Month

/-- The three small letters that a name starts with. -/
def stem : Month → String
  | january => "jan" | february => "feb" | march => "mar" | april => "apr" | may => "may"
  | june => "jun" | july => "jul" | august => "aug" | september => "sep" | october => "oct"
  | november => "nov" | december => "dec"

/-- What a name has behind the three letters that it starts with. -/
def ending : Month → String
  | january => "uary" | february => "ruary" | march => "ch" | april => "il" | may => ""
  | june => "e" | july => "y" | august => "ust" | september => "tember" | october => "ober"
  | november => "ember" | december => "ember"

/-- The month whose three letters stand at the front of a text, and what stands behind them. The
case bit of each byte is taken as set. -/
def readStem? : List UInt8 → Option (Month × List UInt8)
  | a :: b :: c :: rest =>
    let letters := [a, b, c].map (· ||| Text.caseBit)
    (all.find? fun month => Text.bytes month.stem == letters).map (·, rest)
  | _ => none

/-- The month at the front of a text, and what stands behind it. The rest of the name is taken along
if it follows the three letters in any case, and is not missed if it does not. -/
def readName? (text : List UInt8) : Option (Month × List UInt8) :=
  (readStem? text).map fun (month, rest) =>
    let ending := Text.bytes month.ending
    if (rest.take ending.length).map Text.lowered = ending then
      (month, rest.drop ending.length)
    else (month, rest)

/-- The month that a text names, if nothing is left over behind the name. -/
def ofCode? (code : String) : Option Month :=
  match readName? (Text.bytes code) with
  | some (month, []) => some month
  | _ => none

end Month

end ChargeBasis

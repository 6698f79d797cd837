import ChargeBasis.Text.Shapeless

/-!
Quoted text for messages: a text between double quotes in which every character that a reader
could not see, or could mistake for the end of the quotation, is written as an escape.
-/

namespace ChargeBasis.Text

/-- How one character stands inside a quotation; a shapeless one is written as its code. -/
def quoteChar (c : Char) : List Char :=
  if c = '"' then ['\\', '"']
  else if c = '\\' then ['\\', '\\']
  else if c = '\n' then ['\\', 'n']
  else if c = '\r' then ['\\', 'r']
  else if c = '\t' then ['\\', 't']
  else if c = '\x00' then ['\\', '0']
  else if isShapeless c then ['\\', 'u', '\x7b'] ++ Nat.toDigits 16 c.toNat ++ ['\x7d']
  else [c]

/-- The text between double quotes, with escapes where they are needed. -/
def quoted (s : String) : String :=
  String.ofList ('"' :: (s.toList.flatMap quoteChar ++ ['"']))

end ChargeBasis.Text

import ChargeBasis.Text.Digits

/-! Universally unique identifiers: 128 bits, written as 32 hexadecimal digits in five groups. -/

namespace ChargeBasis

/-- A universally unique identifier. -/
structure Uuid where
  bits : BitVec 128
  deriving DecidableEq, Repr

namespace Uuid

/-- The identifier all of whose bits are zero. -/
def nil : Uuid := ⟨0⟩

/-- The 32 hexadecimal digits. -/
def hexDigits (id : Uuid) : List Char :=
  let digits := Nat.toDigits 16 id.bits.toNat
  List.replicate (32 - digits.length) '0' ++ digits

/-- The lengths of the groups of digits. -/
def groups : List Nat := [8, 4, 4, 4, 12]

/-- Digits split into groups with hyphens between them. -/
def hyphenate : List Nat → List Char → List Char
  | [], digits => digits
  | [_], digits => digits
  | size :: sizes, digits => digits.take size ++ '-' :: hyphenate sizes (digits.drop size)

/-- The text with hyphens between the groups. -/
def text (id : Uuid) : String :=
  String.ofList (hyphenate groups id.hexDigits)

/-- The number that says how the identifier was made, four for random ones. -/
def version (id : Uuid) : Nat :=
  (id.bits.toNat >>> 76) % 16

/-- The number that a hexadecimal digit stands for. -/
def digit? (c : Char) : Option Nat :=
  let lower := c.toLower
  if c.isDigit then some (c.toNat - '0'.toNat)
  else if 'a' ≤ lower ∧ lower ≤ 'f' then some (lower.toNat - 'a'.toNat + 10)
  else none

/-- Reads 32 hexadecimal digits. -/
def ofDigits? (cs : List Char) : Option Uuid := do
  if cs.length ≠ 32 then none
  let digits ← cs.mapM digit?
  return ⟨BitVec.ofNat 128 (digits.foldl (fun n digit => n * 16 + digit) 0)⟩

/-- Removes the hyphens between groups, each of which has to be in its place. -/
def unhyphenate? : List Nat → List Char → Option (List Char)
  | [], cs => some cs
  | [_], cs => some cs
  | size :: sizes, cs =>
    match cs.drop size with
    | '-' :: rest => (unhyphenate? sizes rest).map (cs.take size ++ ·)
    | _ => none

/-- Reads digits in groups with hyphens between them. -/
def ofHyphenated? (cs : List Char) : Option Uuid :=
  if cs.length = 36 then (unhyphenate? groups cs).bind ofDigits? else none

/-- Reads an identifier: plain digits, groups with hyphens, the same in braces, or the same behind
`urn:uuid:`; all letters may have either case. -/
def parse? (s : String) : Option Uuid :=
  let cs := s.toList
  match cs with
  | '\x7b' :: rest =>
    if rest.getLast? = some '\x7d' then ofHyphenated? rest.dropLast else none
  | _ =>
    if (cs.take 9).map Char.toLower = "urn:uuid:".toList then ofHyphenated? (cs.drop 9)
    else if cs.length = 32 then ofDigits? cs
    else ofHyphenated? cs

end Uuid

end ChargeBasis

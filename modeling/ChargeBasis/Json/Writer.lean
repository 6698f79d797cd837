import ChargeBasis.Json.Token

/-!
Writing JSON text: in one line without blanks, or laid out with one item a line and two blanks
of indentation a level. Both write the same tokens.
-/

namespace ChargeBasis.Json

-------------------------------------------------------------------------------
-- One line

mutual

/-- The tokens that write a value. -/
def tokens : Json → List Token
  | .null => [.null]
  | .bool value => [.bool value]
  | .number value => [.number value]
  | .text value => [.text (some value)]
  | .array [] => [.beginArray, .endArray]
  | .array (item :: items) => .beginArray :: (tokens item ++ tokensOfItems items)
  | .object [] => [.beginObject, .endObject]
  | .object ((key, value) :: members) =>
    .beginObject :: .text (some key) :: .colon :: (tokens value ++ tokensOfMembers members)
  | .unreadable => [.text none]

/-- The tokens of the further items of an array, and its end. -/
def tokensOfItems : List Json → List Token
  | [] => [.endArray]
  | item :: items => .comma :: (tokens item ++ tokensOfItems items)

/-- The tokens of the further members of an object, and its end. -/
def tokensOfMembers : List (String × Json) → List Token
  | [] => [.endObject]
  | (key, value) :: members =>
    .comma :: .text (some key) :: .colon :: (tokens value ++ tokensOfMembers members)

end

/-- The text of a value in one line. -/
def compact (value : Json) : String :=
  String.ofList (value.tokens.flatMap Token.chars)

-------------------------------------------------------------------------------
-- One item a line

/-- What a layout consists of. -/
inductive LayoutPart where
  | token (token : Token)
  | lineBreak (level : Nat)
  | blank
  deriving DecidableEq, Repr

/-- The characters of a part: two blanks a level after a line break. -/
def LayoutPart.chars : LayoutPart → List Char
  | .token t => t.chars
  | .lineBreak level => '\n' :: List.replicate (2 * level) ' '
  | .blank => [' ']

mutual

/-- The layout of a value that stands at an indentation level. -/
def layout (level : Nat) : Json → List LayoutPart
  | .null => [.token .null]
  | .bool value => [.token (.bool value)]
  | .number value => [.token (.number value)]
  | .text value => [.token (.text (some value))]
  | .array [] => [.token .beginArray, .token .endArray]
  | .array (item :: items) =>
    .token .beginArray :: .lineBreak (level + 1)
      :: (layout (level + 1) item ++ layoutItems level items)
  | .object [] => [.token .beginObject, .token .endObject]
  | .object ((key, value) :: members) =>
    .token .beginObject :: .lineBreak (level + 1)
      :: .token (.text (some key)) :: .token .colon :: .blank
      :: (layout (level + 1) value ++ layoutMembers level members)
  | .unreadable => [.token (.text none)]

/-- The layout of the further items of an array, and its end. -/
def layoutItems (level : Nat) : List Json → List LayoutPart
  | [] => [.lineBreak level, .token .endArray]
  | item :: items =>
    .token .comma :: .lineBreak (level + 1)
      :: (layout (level + 1) item ++ layoutItems level items)

/-- The layout of the further members of an object, and its end. -/
def layoutMembers (level : Nat) : List (String × Json) → List LayoutPart
  | [] => [.lineBreak level, .token .endObject]
  | (key, value) :: members =>
    .token .comma :: .lineBreak (level + 1)
      :: .token (.text (some key)) :: .token .colon :: .blank
      :: (layout (level + 1) value ++ layoutMembers level members)

end

/-- The text of a value with one item a line. -/
def pretty (value : Json) : String :=
  String.ofList ((value.layout 0).flatMap LayoutPart.chars)

end ChargeBasis.Json

import ChargeBasis.Json.Token

/-!
Reading JSON text. A machine takes the tokens one after another and keeps, for every array and
object that is still open, what it holds so far; so arrays and objects nest without bound.
-/

namespace ChargeBasis.Json

/-- The members of an object under way; a key without characters is kept as such. -/
abbrev OpenMembers := List (Option String × Json)

/-- The place that the value under way is going to take. What was read before it in the same array
or object is kept with its last part first. -/
inductive Frame where
  | item (before : List Json)
  | member (before : OpenMembers) (key : Option String)

/-- What the reader expects next, given the places of the open values around it, the innermost
first. -/
inductive Expecting where
  | anyValue (outer : List Frame)
  | firstItem (outer : List Frame)
  | itemEnd (items : List Json) (outer : List Frame)
  | firstKey (outer : List Frame)
  | nextKey (before : OpenMembers) (outer : List Frame)
  | colon (before : OpenMembers) (key : Option String) (outer : List Frame)
  | memberEnd (members : OpenMembers) (outer : List Frame)
  | nothing (value : Json)

/-- The object with these members, the last one first. -/
def closeObject (members : OpenMembers) : Json :=
  match members.reverse.mapM fun (key, value) => key.map fun key => (key, value) with
  | some members => .object members
  | none => .unreadable

namespace Expecting

/-- A value is complete and takes its place. -/
def complete (value : Json) : List Frame → Expecting
  | [] => .nothing value
  | .item before :: outer => .itemEnd (value :: before) outer
  | .member before key :: outer => .memberEnd ((key, value) :: before) outer

/-- A token at which a value starts. -/
def startValue (outer : List Frame) : Token → Option Expecting
  | .null => some (complete .null outer)
  | .bool value => some (complete (.bool value) outer)
  | .number value => some (complete (.number value) outer)
  | .text (some value) => some (complete (.text value) outer)
  | .text none => some (complete .unreadable outer)
  | .beginArray => some (.firstItem outer)
  | .beginObject => some (.firstKey outer)
  | _ => none

/-- Takes one token. -/
def step : Expecting → Token → Option Expecting
  | .anyValue outer, token => startValue outer token
  | .firstItem outer, .endArray => some (complete (.array []) outer)
  | .firstItem outer, token => startValue (.item [] :: outer) token
  | .itemEnd items outer, .comma => some (.anyValue (.item items :: outer))
  | .itemEnd items outer, .endArray => some (complete (.array items.reverse) outer)
  | .firstKey outer, .endObject => some (complete (.object []) outer)
  | .firstKey outer, .text key => some (.colon [] key outer)
  | .nextKey before outer, .text key => some (.colon before key outer)
  | .colon before key outer, .colon => some (.anyValue (.member before key :: outer))
  | .memberEnd members outer, .comma => some (.nextKey members outer)
  | .memberEnd members outer, .endObject => some (complete (closeObject members) outer)
  | _, _ => none

end Expecting

/-- The value that a list of tokens writes. -/
def ofTokens? (tokens : List Token) : Option Json :=
  match tokens.foldlM Expecting.step (.anyValue []) with
  | some (.nothing value) => some value
  | _ => none

/-- Reads a JSON text. -/
def parse (s : String) : Option Json :=
  (tokenize s.toList).bind ofTokens?

end ChargeBasis.Json

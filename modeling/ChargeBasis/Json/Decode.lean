import ChargeBasis.Json.Reader

/-!
Decoding: what a JSON value means for a type. A record is an object, whose members may come in
any order and may be joined by unknown ones, or an array of its fields in order. A variant is
its name, or an object whose only key is the name.
-/

namespace ChargeBasis.Json

/-- Why a text is no value of a type. -/
inductive DecodeError where
  | malformed
  | unexpected
  | missingField (name : String)
  | duplicateField (name : String)
  | unknownVariant (name : String) (expected : List String)
  | rejected (reason : String)
  deriving DecidableEq, Repr

/-- A name between grave accents. -/
def marked (name : String) : String :=
  "`" ++ name ++ "`"

/-- The names that would have been right. -/
def expectation : List String → String
  | [] => "nothing"
  | [a] => marked a
  | [a, b] => marked a ++ " or " ++ marked b
  | names => "one of " ++ ", ".intercalate (names.map marked)

/-- The wording of a decoding error. -/
def DecodeError.message : DecodeError → String
  | .malformed => "malformed text"
  | .unexpected => "unexpected value"
  | .missingField name => "missing field " ++ marked name
  | .duplicateField name => "duplicate field " ++ marked name
  | .unknownVariant name expected =>
    "unknown variant " ++ marked name ++ ", expected " ++ expectation expected
  | .rejected reason => reason

/-- A reader of the values of a type. -/
abbrev Decoder (α : Type) := Json → Except DecodeError α

-------------------------------------------------------------------------------
-- Scalars and lists

namespace Decoder

/-- Reads a truth value. -/
def bool : Decoder Bool
  | .bool value => .ok value
  | _ => .error .unexpected

/-- Reads a text. -/
def string : Decoder String
  | .text value => .ok value
  | _ => .error .unexpected

/-- Reads a text that a partial function accepts. -/
def parsed {α : Type} (parse? : String → Option α) : Decoder α
  | .text value =>
    match parse? value with
    | some a => .ok a
    | none => .error .unexpected
  | _ => .error .unexpected

/-- Reads an integer from `low` up to `high`, written without point and exponent. -/
def integer (low high : Int) : Decoder Int
  | .number value =>
    match value.toInt? with
    | some n => if low ≤ n ∧ n ≤ high then .ok n else .error .unexpected
    | none => .error .unexpected
  | _ => .error .unexpected

/-- Reads a natural number below `2 ^ 64`. -/
def count : Decoder Nat := fun j =>
  (integer 0 18446744073709551615 j).map Int.toNat

/-- Reads an unsigned word of 64 bits. -/
def uint64 : Decoder UInt64 := fun j =>
  (count j).map UInt64.ofNat

/-- Reads an unsigned word of 32 bits. -/
def uint32 : Decoder UInt32 := fun j =>
  (integer 0 4294967295 j).map fun n => UInt32.ofNat n.toNat

/-- Reads a signed word of 32 bits. -/
def int32 : Decoder Int32 := fun j =>
  (integer (-2147483648) 2147483647 j).map Int32.ofInt

/-- Reads a signed word of 64 bits. -/
def int64 : Decoder Int64 := fun j =>
  (integer (-9223372036854775808) 9223372036854775807 j).map Int64.ofInt

/-- Reads a value that may be null. -/
def nullable {α : Type} (decode : Decoder α) : Decoder (Option α)
  | .null => .ok none
  | j => (decode j).map some

/-- Reads an array of values of one type. -/
def list {α : Type} (decode : Decoder α) : Decoder (List α)
  | .array items => items.mapM decode
  | _ => .error .unexpected

-------------------------------------------------------------------------------
-- Variants

/-- Reads a variant with one of the given names; `body` makes it from the name and from what the
object holds under it. -/
def variant {α : Type} (names : List String)
    (body : String → Option Json → Except DecodeError α) : Decoder α
  | .text name =>
    if name ∈ names then body name none else .error (.unknownVariant name names)
  | .object ((name, payload) :: others) =>
    if name ∈ names then do
      let a ← body name (some payload)
      if others.isEmpty then return a else throw .unexpected
    else .error (.unknownVariant name names)
  | _ => .error .unexpected

/-- What a variant without content accepts behind its name. -/
def unit {α : Type} (a : α) : Option Json → Except DecodeError α
  | none => .ok a
  | some .null => .ok a
  | some _ => .error .unexpected

/-- Reads one of several names, each of which stands for a value. -/
def oneOf {α : Type} (choices : List (String × α)) : Decoder α :=
  variant (choices.map Prod.fst) fun name payload =>
    match choices.lookup name with
    | some a => unit a payload
    | none => .error .unexpected

end Decoder

-------------------------------------------------------------------------------
-- Records

/-- A field of a record: its name, and a check of the value given for it. -/
structure Field where
  name : String
  check : Json → Except DecodeError Unit

/-- The field with this name whose value a decoder reads. -/
def Field.of {α : Type} (name : String) (decode : Decoder α) : Field where
  name := name
  check j := (decode j).map fun _ => ()

/-- The values given for the fields of a record. -/
structure Record where
  entries : List (String × Json)

namespace Record

/-- Takes the values of an array for the fields in order. -/
def ofItems : List Field → List Json → Except DecodeError (List (String × Json))
  | [], [] => .ok []
  | field :: fields, item :: items => do
    field.check item
    return (field.name, item) :: (← ofItems fields items)
  | _, _ => .error .unexpected

/-- Takes the members of an object in the order of the text. The first problem counts: a known
key that was `seen` before, or a value that does not pass. -/
def ofMembers (fields : List Field) (seen : List (String × Json))
    : List (String × Json) → Except DecodeError (List (String × Json))
  | [] => .ok seen
  | (key, value) :: members =>
    match fields.find? fun field => field.name == key with
    | none => ofMembers fields seen members
    | some field =>
      if (seen.lookup key).isSome then .error (.duplicateField key)
      else do
        field.check value
        ofMembers fields (seen ++ [(key, value)]) members

/-- Reads the values of a record. -/
def read (fields : List Field) : Decoder Record
  | .array items => (ofItems fields items).map .mk
  | .object members => (ofMembers fields [] members).map .mk
  | _ => .error .unexpected

/-- The value of a field that has to be there. -/
def get {α : Type} (record : Record) (name : String) (decode : Decoder α)
    : Except DecodeError α :=
  match record.entries.lookup name with
  | some value => decode value
  | none => .error (.missingField name)

/-- The value of a field that may be missing, which counts as null. -/
def get? {α : Type} (record : Record) (name : String) (decode : Decoder α)
    : Except DecodeError (Option α) :=
  match record.entries.lookup name with
  | some value => decode.nullable value
  | none => .ok none

end Record

/-- Reads a value of a type from text. -/
def decodeText {α : Type} (decode : Decoder α) (s : String) : Except DecodeError α :=
  match parse s with
  | some j => decode j
  | none => .error .malformed

end ChargeBasis.Json

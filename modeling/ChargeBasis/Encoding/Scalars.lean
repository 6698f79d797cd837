import ChargeBasis.Calendar.DateText
import ChargeBasis.Encoding.Money
import ChargeBasis.Uuid

/-! Words, dates and identifiers as JSON. -/

namespace ChargeBasis

/-- The JSON number of an unsigned word. -/
def Json.ofUInt64 (n : UInt64) : Json :=
  .ofNat n.toNat

/-- The JSON number of an unsigned word. -/
def Json.ofUInt32 (n : UInt32) : Json :=
  .ofNat n.toNat

/-- The JSON number of a signed word. -/
def Json.ofInt32 (n : Int32) : Json :=
  .ofInt n.toInt

/-- The JSON value of an optional value, null for none. -/
def Json.ofOption {α : Type} (encode : α → Json) : Option α → Json
  | some a => encode a
  | none => .null

/-- The JSON array of a list. -/
def Json.ofList {α : Type} (encode : α → Json) (items : List α) : Json :=
  .array (items.map encode)

/-- The JSON text of a date. -/
def Date.toJson (d : Date) : Json :=
  .text d.text

/-- Reads a date from JSON. -/
def Date.ofJson : Json.Decoder Date :=
  .parsed fun s => (Date.parse s).toOption

/-- The JSON text of an identifier. -/
def Uuid.toJson (id : Uuid) : Json :=
  .text id.text

/-- Reads an identifier from JSON. -/
def Uuid.ofJson : Json.Decoder Uuid :=
  .parsed Uuid.parse?

end ChargeBasis

import ChargeBasis.Encoding.Scalars
import ChargeBasis.Proofs.Calendar.DateText
import ChargeBasis.Proofs.Decimal.Text
import ChargeBasis.Proofs.Json.Documents
import ChargeBasis.Proofs.Json.Records
import ChargeBasis.Proofs.Text.Identifiers

/-!
Reading encoded scalars, options, lists and names. What was encoded is read back, an amount that
is zero without a sign.
-/

namespace ChargeBasis

-----------------------------------------------------------------------------------------
-- Amounts
-----------------------------------------------------------------------------------------

namespace Money

/-- The same amount, without a sign if it is zero. -/
def unsigned (m : Money) : Money :=
  ⟨m.amount.unsignZero⟩

/-- Taking the sign from a zero changes neither the value nor the scale. -/
theorem toRat_unsigned (m : Money)
    : m.unsigned.toRat = m.toRat ∧ m.unsigned.amount.scale = m.amount.scale := by
  refine ⟨?_, rfl⟩
  rw [toRat, toRat, Decimal.toRat, Decimal.toRat]
  exact congrArg (mkRat · _) m.amount.units_unsignZero

@[simp] theorem ofJson_toJson (m : Money)
    : ofJson m.toJson = .ok m.unsigned := by
  simp only [toJson, ofJson, text, Decimal.parse_text]
  rfl

end Money

-----------------------------------------------------------------------------------------
-- Dates, identifiers and words
-----------------------------------------------------------------------------------------

@[simp] theorem Date.ofJson_toJson (d : Date)
    : ofJson d.toJson = .ok d := by
  simp only [toJson, ofJson, Json.Decoder.parsed, parse_text]
  rfl

@[simp] theorem Uuid.ofJson_toJson (id : Uuid)
    : ofJson id.toJson = .ok id := by
  simp only [toJson, ofJson, Json.Decoder.parsed, parse?_text]

namespace Json.Decoder

variable {α : Type}

@[simp] theorem string_text (s : String)
    : string (.text s) = .ok s :=
  rfl

@[simp] theorem bool_bool (b : Bool)
    : bool (.bool b) = .ok b :=
  rfl

theorem integer_ofInt {low high n : Int} (lower : low ≤ n) (upper : n ≤ high)
    : integer low high (.ofInt n) = .ok n := by
  simp [integer, Json.ofInt, Numeral.toInt?_ofInt, lower, upper]

theorem count_ofNat {n : Nat} (fits : n < 2 ^ 64)
    : count (.ofNat n) = .ok n := by
  have read : integer 0 18446744073709551615 (.ofInt n) = .ok (n : Int) :=
    integer_ofInt (by omega) (by omega)
  exact congrArg (Except.map Int.toNat) read

@[simp] theorem uint64_ofUInt64 (n : UInt64)
    : uint64 (.ofUInt64 n) = .ok n := by
  rw [uint64, Json.ofUInt64, count_ofNat n.toNat_lt]
  exact congrArg Except.ok UInt64.ofNat_toNat

@[simp] theorem uint32_ofUInt32 (n : UInt32)
    : uint32 (.ofUInt32 n) = .ok n := by
  have fits := n.toNat_lt
  have read : integer 0 4294967295 (.ofInt n.toNat) = .ok (n.toNat : Int) :=
    integer_ofInt (by omega) (by omega)
  rw [uint32, Json.ofUInt32]
  exact (congrArg (Except.map _) read).trans (congrArg Except.ok UInt32.ofNat_toNat)

@[simp] theorem int32_ofInt32 (n : Int32)
    : int32 (.ofInt32 n) = .ok n := by
  have lower := n.le_toInt
  have upper := n.toInt_lt
  have read : integer (-2147483648) 2147483647 (.ofInt n.toInt) = .ok n.toInt :=
    integer_ofInt (by omega) (by omega)
  rw [int32, Json.ofInt32]
  exact (congrArg (Except.map _) read).trans (congrArg Except.ok n.ofInt_toInt)

-----------------------------------------------------------------------------------------
-- Options, lists and names
-----------------------------------------------------------------------------------------

/-- An optional value is read back, if no value is encoded as null. -/
theorem nullable_ofOption {encode : α → Json} {decode : Decoder α}
    (reads : ∀ a, decode (encode a) = .ok a) (some_value : ∀ a, encode a ≠ .null)
    (o : Option α)
    : decode.nullable (.ofOption encode o) = .ok o := by
  cases o with
  | none => rfl
  | some a =>
      have given : decode.nullable (encode a) = (decode (encode a)).map some := by
        unfold nullable
        split
        · next null => exact absurd null (some_value a)
        · rfl
      exact given.trans (congrArg (Except.map some) (reads a))

/-- A list is read back item by item. -/
theorem list_ofList {encode : α → Json} {decode : Decoder α} {f : α → α} (items : List α)
    (reads : ∀ a ∈ items, decode (encode a) = .ok (f a))
    : decode.list (.ofList encode items) = .ok (items.map f) := by
  rw [Json.ofList, list]
  induction items with
  | nil => rfl
  | cons a items ih =>
      rw [List.forall_mem_cons] at reads
      rw [List.map_cons, List.mapM_cons, reads.1, ih reads.2]
      rfl

/-- A list is read from an array of as many items, by induction over the items. -/
theorem length_of_list {decode : Decoder α} {j : Json} {as : List α}
    (reads : decode.list j = .ok as)
    : ∃ items, j = .array items ∧ items.length = as.length := by
  cases j with
  | array items =>
      refine ⟨items, rfl, ?_⟩
      rw [list] at reads
      induction items generalizing as with
      | nil =>
          cases reads
          rfl
      | cons item items ih =>
          rw [List.mapM_cons, Except.bind_eq_ok_iff] at reads
          obtain ⟨a, _, rest⟩ := reads
          rw [Except.bind_eq_ok_iff] at rest
          obtain ⟨others, read, same⟩ := rest
          cases same
          rw [List.length_cons, List.length_cons, ih read]
  | _ => cases reads

/-- A name is read as the value that it stands for. -/
theorem oneOf_text {choices : List (String × α)} {name : String} {a : α}
    (found : choices.lookup name = some a)
    : oneOf choices (.text name) = .ok a := by
  have known : name ∈ choices.map Prod.fst := by
    obtain ⟨choice, member, same⟩ := List.lookup_isSome_iff.mp (Option.isSome_of_eq_some found)
    exact beq_iff_eq.mp same ▸ List.mem_map_of_mem member
  simp [oneOf, variant, known, found, unit]

end Json.Decoder

namespace Json

variable {α : Type} {encode : α → Json}

theorem isPlain_ofOption (plain : ∀ a, (encode a).IsPlain) (o : Option α)
    : (ofOption encode o).IsPlain := by
  cases o with
  | none => exact isPlain_null
  | some a => exact plain a

theorem isPlain_ofList (items : List α) (plain : ∀ a, (encode a).IsPlain)
    : (ofList encode items).IsPlain :=
  isPlain_array (List.forall_mem_map.mpr fun a _ => plain a)

end Json

end ChargeBasis

import ChargeBasis.Json.Decode
import ChargeBasis.Proofs.Source.Reading
import Mathlib

/-!
Reading records. A record is read from a JSON value exactly if the value names no field twice, or
lists all fields in order, and every value given for a field passes the check of the field.
-/

namespace ChargeBasis

/-- A step that has a value hands it on. -/
theorem Except.ok_bind {ε α β : Type} (a : α) (f : α → Except ε β)
    : (Except.ok a >>= f) = f a :=
  rfl

namespace Json

variable {α : Type}

-----------------------------------------------------------------------------------------
-- What a value gives for the fields
-----------------------------------------------------------------------------------------

/-- The members that have one of the names as their key. -/
def named (names : List String) (members : List (String × Json)) : List (String × Json) :=
  members.filter fun member => member.1 ∈ names

/-- What a JSON value gives for a list of names: the members of an object that have one of them as
their key, no key being there twice, or the items of an array, one for each name in order.
-/
inductive Gives (names : List String) : Json → List (String × Json) → Prop
  | object {members : List (String × Json)} (once : ((named names members).map Prod.fst).Nodup)
      : Gives names (.object members) (named names members)
  | array {items : List Json} (all : items.length = names.length)
      : Gives names (.array items) (names.zip items)

/-- No name is given two values. -/
theorem Gives.nodup {names : List String} {j : Json} {entries : List (String × Json)}
    (gives : Gives names j entries) (distinct : names.Nodup)
    : (entries.map Prod.fst).Nodup := by
  cases gives with
  | object once => exact once
  | array all =>
      rw [List.map_fst_zip all.ge]
      exact distinct

/-- A value gives the names one list of entries. -/
theorem Gives.unique {names : List String} {j : Json} {entries others : List (String × Json)}
    (gives : Gives names j entries) (again : Gives names j others)
    : entries = others := by
  cases gives <;> cases again <;> rfl

/-- An object with the names as its keys gives its members. -/
theorem Gives.of_keys {names : List String} {members : List (String × Json)}
    (keys : members.map Prod.fst = names) (distinct : names.Nodup)
    : Gives names (.object members) members := by
  have all : named names members = members :=
    List.filter_eq_self.mpr fun member found =>
      decide_eq_true (keys ▸ List.mem_map_of_mem (f := Prod.fst) found)
  have gives := @Gives.object names members (by rwa [all, keys])
  rwa [all] at gives

-----------------------------------------------------------------------------------------
-- The value for a key
-----------------------------------------------------------------------------------------

theorem mem_keys {entries : List (String × Json)} {name : String} {value : Json}
    (found : (name, value) ∈ entries)
    : name ∈ entries.map Prod.fst :=
  List.mem_map_of_mem (f := Prod.fst) found

/-- The first entry for a key is the only one, if no key is there twice. -/
theorem lookup_eq_some_iff {entries : List (String × Json)} (once : (entries.map Prod.fst).Nodup)
    {name : String} {value : Json}
    : entries.lookup name = some value ↔ (name, value) ∈ entries := by
  induction entries with
  | nil => simp
  | cons entry entries ih =>
      obtain ⟨key, first⟩ := entry
      rw [List.map_cons, List.nodup_cons] at once
      by_cases same : name = key
      · subst same
        have other : (name, value) ∉ entries := fun found => once.1 (mem_keys found)
        simp [List.lookup, other, eq_comm]
      · have differs : (name == key) = false := by simpa using same
        simp [List.lookup, differs, ih once.2, same]

/-- No key has two values, if none is there twice. -/
theorem eq_of_mem {entries : List (String × Json)} (once : (entries.map Prod.fst).Nodup)
    {name : String} {first second : Json} (one : (name, first) ∈ entries)
    (other : (name, second) ∈ entries)
    : first = second :=
  Option.some.inj (((lookup_eq_some_iff once).mpr one).symm.trans
    ((lookup_eq_some_iff once).mpr other))

theorem isSome_lookup_iff {entries : List (String × Json)} {name : String}
    : (entries.lookup name).isSome = true ↔ name ∈ entries.map Prod.fst := by
  simp only [List.lookup_isSome_iff, beq_iff_eq, List.mem_map, eq_comm (b := name)]

-----------------------------------------------------------------------------------------
-- Fields
-----------------------------------------------------------------------------------------

@[simp] theorem Field.name_of (name : String) (decode : Decoder α)
    : (Field.of name decode).name = name :=
  rfl

theorem Field.check_of_eq_ok_iff {name : String} {decode : Decoder α} {value : Json}
    : (Field.of name decode).check value = .ok () ↔ ∃ a, decode value = .ok a := by
  rw [Field.of, Except.map_eq_ok_iff]
  simp

namespace Record

variable {fields : List Field}

/-- The values for the fields pass the checks of the fields. -/
def Passes (fields : List Field) (entries : List (String × Json)) : Prop :=
  ∀ field ∈ fields, ∀ value, (field.name, value) ∈ entries → field.check value = .ok ()

/-- One more value passes if its field accepts it. -/
theorem passes_cons_iff (distinct : (fields.map Field.name).Nodup) {field : Field}
    (member : field ∈ fields) {value : Json} {entries : List (String × Json)}
    : Passes fields ((field.name, value) :: entries)
      ↔ field.check value = .ok () ∧ Passes fields entries := by
  constructor
  · intro passes
    exact ⟨passes field member value List.mem_cons_self,
      fun other found v entry => passes other found v (List.mem_cons_of_mem _ entry)⟩
  · rintro ⟨accepts, passes⟩ other found v entry
    rcases List.mem_cons.mp entry with same | later
    · obtain ⟨name, rfl⟩ := Prod.mk.inj same
      rwa [List.inj_on_of_nodup_map distinct found member name]
    · exact passes other found v later

/-- One more field changes nothing for entries that have no value for it. -/
theorem passes_field_cons_iff {field : Field} {entries : List (String × Json)}
    (unnamed : field.name ∉ entries.map Prod.fst)
    : Passes (field :: fields) entries ↔ Passes fields entries := by
  rw [Passes, List.forall_mem_cons, Passes, and_iff_right_iff_imp]
  exact fun _ value entry => absurd (mem_keys entry) unnamed

/-- The members of an object are taken for the fields if no key of a field is there twice and the
values pass, by induction over the members.
-/
theorem ofMembers_eq_ok_iff (distinct : (fields.map Field.name).Nodup)
    {seen members entries : List (String × Json)} (once : (seen.map Prod.fst).Nodup)
    : ofMembers fields seen members = .ok entries
      ↔ entries = seen ++ named (fields.map Field.name) members
        ∧ (entries.map Prod.fst).Nodup
        ∧ Passes fields (named (fields.map Field.name) members) := by
  induction members generalizing seen with
  | nil =>
      rw [ofMembers, named, List.filter_nil, List.append_nil]
      constructor
      · rintro ⟨⟩
        exact ⟨rfl, once, by simp [Passes]⟩
      · rintro ⟨rfl, -, -⟩
        rfl
  | cons member members ih =>
      obtain ⟨key, value⟩ := member
      rw [ofMembers]
      cases known : fields.find? fun field => field.name == key with
      | none =>
          have unknown : key ∉ fields.map Field.name := by simpa using known
          have skipped : named (fields.map Field.name) ((key, value) :: members)
              = named (fields.map Field.name) members :=
            List.filter_cons_of_neg (by simpa using unknown)
          rw [skipped, ih once]
      | some field =>
          have found : field ∈ fields := List.mem_of_find?_eq_some known
          obtain rfl : field.name = key := by simpa using List.find?_some known
          have taken : named (fields.map Field.name) ((field.name, value) :: members)
              = (field.name, value) :: named (fields.map Field.name) members :=
            List.filter_cons_of_pos (decide_eq_true (List.mem_map_of_mem found))
          rw [taken, passes_cons_iff distinct found]
          dsimp only
          split
          · next again =>
            constructor
            · nofun
            · rintro ⟨rfl, twice, -⟩
              rw [List.map_append, List.nodup_append'] at twice
              exact absurd (List.mem_cons_self) (twice.2.2 (isSome_lookup_iff.mp again))
          · next fresh =>
            have unseen : field.name ∉ seen.map Prod.fst := mt isSome_lookup_iff.mpr fresh
            have once' : ((seen ++ [(field.name, value)]).map Prod.fst).Nodup := by
              rw [List.map_append]
              exact once.append (List.nodup_singleton _) (by simpa using unseen)
            rw [Except.bind_eq_ok_iff]
            simp only [ih once', List.append_assoc, List.singleton_append]
            constructor
            · rintro ⟨⟨⟩, accepts, rest, nodup, passes⟩
              exact ⟨rest, nodup, accepts, passes⟩
            · rintro ⟨rest, nodup, accepts, passes⟩
              exact ⟨(), accepts, rest, nodup, passes⟩

/-- The items of an array are taken for the fields if there is one for each field and they pass, by
induction over the fields.
-/
theorem ofItems_eq_ok_iff (distinct : (fields.map Field.name).Nodup) {items : List Json}
    {entries : List (String × Json)}
    : ofItems fields items = .ok entries
      ↔ items.length = fields.length
        ∧ entries = (fields.map Field.name).zip items
        ∧ Passes fields entries := by
  induction fields generalizing items entries with
  | nil =>
      cases items with
      | nil => simp [ofItems, Passes, eq_comm]
      | cons item items => simp [ofItems]
  | cons field fields ih =>
      cases items with
      | nil => simp [ofItems]
      | cons item items =>
          have unnamed : field.name ∉ ((fields.map Field.name).zip items).map Prod.fst := by
            intro found
            obtain ⟨entry, zipped, same⟩ := List.mem_map.mp found
            exact (List.nodup_cons.mp distinct).1 (same ▸ (List.of_mem_zip zipped).1)
          rw [ofItems, Except.bind_eq_ok_iff]
          simp only [Except.bind_eq_ok_iff, ih (List.nodup_cons.mp distinct).2]
          constructor
          · rintro ⟨⟨⟩, accepts, tail, ⟨length, rfl, passes⟩, ⟨⟩⟩
            refine ⟨by simpa using length, rfl, ?_⟩
            rw [passes_cons_iff distinct List.mem_cons_self]
            exact ⟨accepts, (passes_field_cons_iff unnamed).mpr passes⟩
          · rintro ⟨length, rfl, passes⟩
            rw [List.map_cons, List.zip_cons_cons, passes_cons_iff distinct List.mem_cons_self,
              passes_field_cons_iff unnamed] at passes
            exact ⟨(), passes.1, _, ⟨by simpa using length, rfl, passes.2⟩, rfl⟩

/-- A record is read exactly from a value that gives values for its fields which pass. -/
theorem read_eq_ok_iff (distinct : (fields.map Field.name).Nodup) {j : Json} {record : Record}
    : read fields j = .ok record
      ↔ Gives (fields.map Field.name) j record.entries ∧ Passes fields record.entries := by
  cases j with
  | null | bool | number | text | unreadable =>
      constructor
      · nofun
      · rintro ⟨⟨⟩, -⟩
  | array items =>
      rw [read, Except.map_eq_ok_iff]
      simp only [ofItems_eq_ok_iff distinct]
      constructor
      · rintro ⟨entries, ⟨length, rfl, passes⟩, rfl⟩
        exact ⟨.array (by simpa using length), passes⟩
      · rintro ⟨gives, passes⟩
        obtain ⟨entries⟩ := record
        cases gives with
        | array all => exact ⟨_, ⟨by simpa using all, rfl, passes⟩, rfl⟩
  | object members =>
      rw [read, Except.map_eq_ok_iff]
      simp only [@ofMembers_eq_ok_iff fields distinct [] members _ List.nodup_nil, List.nil_append]
      constructor
      · rintro ⟨entries, ⟨rfl, once, passes⟩, rfl⟩
        exact ⟨.object once, passes⟩
      · rintro ⟨gives, passes⟩
        obtain ⟨entries⟩ := record
        cases gives with
        | object once => exact ⟨_, ⟨rfl, once, passes⟩, rfl⟩

/-- The members of an object list the fields in order, with values that they accept. -/
def Lists (fields : List Field) (members : List (String × Json)) : Prop :=
  List.Forall₂ (fun field member => member.1 = field.name ∧ field.check member.2 = .ok ())
    fields members

theorem Lists.keys {members : List (String × Json)} (lists : Lists fields members)
    : members.map Prod.fst = fields.map Field.name := by
  induction lists with
  | nil => rfl
  | cons head _ ih => rw [List.map_cons, List.map_cons, head.1, ih]

theorem Lists.passes {members : List (String × Json)} (lists : Lists fields members)
    (distinct : (fields.map Field.name).Nodup)
    : Passes fields members := by
  induction lists with
  | nil => simp [Passes]
  | @cons field member fields members head tail ih =>
      obtain ⟨key, value⟩ := member
      obtain ⟨rfl, accepts⟩ := head
      obtain ⟨fresh, others⟩ := List.nodup_cons.mp distinct
      have unnamed : field.name ∉ members.map Prod.fst := Lists.keys tail ▸ fresh
      rw [passes_cons_iff distinct List.mem_cons_self, passes_field_cons_iff unnamed]
      exact ⟨accepts, ih others⟩

/-- An object that lists the fields is read as its members. -/
theorem read_object (distinct : (fields.map Field.name).Nodup) {members : List (String × Json)}
    (lists : Lists fields members)
    : read fields (.object members) = .ok ⟨members⟩ :=
  (read_eq_ok_iff distinct).mpr ⟨.of_keys lists.keys distinct, lists.passes distinct⟩

variable {record : Record} {name : String} {decode : Decoder α}

@[simp] theorem get_cons_self (value : Json) (others : List (String × Json))
    : get ⟨(name, value) :: others⟩ name decode = decode value := by
  simp [get]

@[simp] theorem get_cons_of_ne {key : String} (differs : name ≠ key) (value : Json)
    (others : List (String × Json))
    : get ⟨(key, value) :: others⟩ name decode = get ⟨others⟩ name decode := by
  simp [get, List.lookup_cons, beq_false_of_ne differs]

@[simp] theorem get?_cons_self (value : Json) (others : List (String × Json))
    : get? ⟨(name, value) :: others⟩ name decode = decode.nullable value := by
  simp [get?]

@[simp] theorem get?_cons_of_ne {key : String} (differs : name ≠ key) (value : Json)
    (others : List (String × Json))
    : get? ⟨(key, value) :: others⟩ name decode = get? ⟨others⟩ name decode := by
  simp [get?, List.lookup_cons, beq_false_of_ne differs]

/-- A field that has to be there has the value that its only entry is read as. -/
theorem get_eq_ok_iff (once : (record.entries.map Prod.fst).Nodup) {a : α}
    : record.get name decode = .ok a
      ↔ ∃ value, (name, value) ∈ record.entries ∧ decode value = .ok a := by
  simp only [← lookup_eq_some_iff once, get]
  cases record.entries.lookup name <;> simp

/-- A field that may be missing has no value, or the value that its only entry is read as. -/
theorem get?_eq_ok_iff (once : (record.entries.map Prod.fst).Nodup) {a : Option α}
    : record.get? name decode = .ok a
      ↔ (∃ value, (name, value) ∈ record.entries ∧ decode.nullable value = .ok a)
        ∨ name ∉ record.entries.map Prod.fst ∧ a = none := by
  simp only [← lookup_eq_some_iff once, ← isSome_lookup_iff, get?]
  cases record.entries.lookup name <;> simp [eq_comm]

end Record

end Json

end ChargeBasis

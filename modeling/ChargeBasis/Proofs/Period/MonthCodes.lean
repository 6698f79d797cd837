import ChargeBasis.Proofs.Period.Resolution

/-!
The texts that name a month. A text is read by its bytes: three letters tell the month, and the rest
of its name may follow them. This leaves the English name and the three-letter abbreviation, where
an ASCII letter may stand as a capital or a small one; nothing else names a month, in particular no
text with another character. Only a choice of a period looks past the blanks around a code.
-/

namespace ChargeBasis

namespace Text

-----------------------------------------------------------------------------------------
-- Case
-----------------------------------------------------------------------------------------

/-- A character is the ASCII capital of another one. -/
def IsCapitalOf (c d : Char) : Prop :=
  'A'.toNat ≤ c.toNat ∧ c.toNat ≤ 'Z'.toNat ∧ d.toNat = c.toNat + 32

/-- Two characters are the same one, or an ASCII letter in its two cases. -/
def SameLetter (c d : Char) : Prop :=
  c = d ∨ IsCapitalOf c d ∨ IsCapitalOf d c

/-- Two texts of the same length that differ at most in the case of ASCII letters. -/
def SameButCase : List Char → List Char → Prop :=
  List.Forall₂ SameLetter

theorem toNat_toLower (c : Char)
    : c.toLower.toNat
      = if 'A'.toNat ≤ c.toNat ∧ c.toNat ≤ 'Z'.toNat then c.toNat + 32 else c.toNat := by
  unfold Char.toLower
  split
  next capital =>
    have upper : c.val.toNat ≤ 90 := capital.2
    rw [if_pos ⟨capital.1, capital.2⟩]
    change (c.val + 32).toNat = c.val.toNat + 32
    rw [UInt32.toNat_add]
    exact Nat.mod_eq_of_lt (by simp only [UInt32.reduceToNat]; omega)
  next other => exact (if_neg other).symm

theorem toLower_eq_toLower_iff {c d : Char}
    : c.toLower = d.toLower ↔ SameLetter c d := by
  rw [← Char.toNat_inj, toNat_toLower, toNat_toLower, SameLetter, ← Char.toNat_inj, IsCapitalOf,
    IsCapitalOf]
  simp only [Char.reduceToNat]
  split <;> split <;> omega

theorem isAlpha_iff {c : Char}
    : c.isAlpha = true
      ↔ 'A'.toNat ≤ c.toNat ∧ c.toNat ≤ 'Z'.toNat ∨ 'a'.toNat ≤ c.toNat ∧ c.toNat ≤ 'z'.toNat := by
  simp only [Char.isAlpha, Char.isUpper, Char.isLower, Bool.or_eq_true, Bool.and_eq_true,
    decide_eq_true_eq]
  rfl

/-- A character that differs at most in case from an ASCII letter is an ASCII letter. -/
theorem SameLetter.isAlpha {c d : Char} (same : SameLetter c d) (letter : d.isAlpha = true)
    : c.isAlpha = true := by
  rcases same with rfl | ⟨lower, upper, _⟩ | ⟨lower, upper, number⟩
  · exact letter
  · exact isAlpha_iff.mpr (.inl ⟨lower, upper⟩)
  · refine isAlpha_iff.mpr (.inr ⟨?_, ?_⟩)
    · rw [number]
      exact Nat.add_le_add_right lower 32
    · rw [number]
      exact Nat.add_le_add_right upper 32

theorem SameButCase.isAlpha {a b : List Char} (same : SameButCase a b)
    (letters : ∀ d ∈ b, d.isAlpha = true)
    : ∀ c ∈ a, c.isAlpha = true := by
  induction same with
  | nil => exact fun c member => absurd member List.not_mem_nil
  | cons head _ ih =>
      simp only [List.forall_mem_cons] at letters ⊢
      exact ⟨head.isAlpha letters.1, ih letters.2⟩

-----------------------------------------------------------------------------------------
-- Bytes
-----------------------------------------------------------------------------------------

/-- Different texts have different bytes. -/
theorem bytes_inj {a b : String}
    : bytes a = bytes b ↔ a = b := by
  constructor
  · intro same
    have encoded : a.toList.utf8Encode = b.toList.utf8Encode := congrArg List.toByteArray same
    rwa [String.utf8Encode_toList, String.utf8Encode_toList, String.toByteArray_inj] at encoded
  · exact congrArg bytes

theorem bytes_append (a b : String)
    : bytes (a ++ b) = bytes a ++ bytes b := by
  rw [bytes, String.toList_append, List.flatMap_append]
  rfl

/-- The text with its ASCII capitals made small. -/
def small (text : String) : String :=
  String.ofList (text.toList.map Char.toLower)

/-- A byte from its number, above those of ASCII. -/
theorem high_ofNat {n : Nat} (high : 128 ≤ n) (byte : n < 256)
    : 128 ≤ UInt8.ofNat n := by
  rw [UInt8.le_iff_toNat_le, UInt8.toNat_ofNat_of_lt' byte]
  exact high

/-- All bytes of a character beyond ASCII lie above those of ASCII. -/
theorem high_of_mem_utf8EncodeChar {c : Char} (beyond : 128 ≤ c.toNat)
    : ∀ byte ∈ String.utf8EncodeChar c, 128 ≤ byte := by
  have wide : ¬c.val.toNat ≤ 127 := Nat.not_le.mpr beyond
  unfold String.utf8EncodeChar
  simp only [if_neg wide]
  split
  · simp only [List.forall_mem_cons]
    exact ⟨high_ofNat (by omega) (by omega), high_ofNat (by omega) (by omega), nofun⟩
  · split
    · simp only [List.forall_mem_cons]
      exact ⟨high_ofNat (by omega) (by omega), high_ofNat (by omega) (by omega),
        high_ofNat (by omega) (by omega), nofun⟩
    · simp only [List.forall_mem_cons]
      exact ⟨high_ofNat (by omega) (by omega), high_ofNat (by omega) (by omega),
        high_ofNat (by omega) (by omega), high_ofNat (by omega) (by omega), nofun⟩

theorem lowered_of_high {byte : UInt8} (high : 128 ≤ byte)
    : lowered byte = byte := by
  rw [lowered, if_neg]
  rw [UInt8.le_iff_toNat_le] at high
  rw [UInt8.le_iff_toNat_le, UInt8.le_iff_toNat_le]
  simp only [UInt8.reduceToNat] at high ⊢
  omega

/-- A capital is made small in its bytes: a character of ASCII is one byte, and any other one is
left as it is.
-/
theorem map_lowered_utf8EncodeChar (c : Char)
    : (String.utf8EncodeChar c).map lowered = String.utf8EncodeChar c.toLower := by
  rcases lt_or_ge c.toNat 128 with ascii | beyond
  · have each
        : ∀ n < 128,
            (String.utf8EncodeChar (Char.ofNat n)).map lowered
            = String.utf8EncodeChar (Char.ofNat n).toLower := by
      decide +kernel
    have own := each c.toNat ascii
    rwa [Char.ofNat_toNat] at own
  · have same : c.toLower = c := by
      rw [← Char.toNat_inj, toNat_toLower, if_neg]
      simp only [Char.reduceToNat]
      omega
    rw [same]
    have high := high_of_mem_utf8EncodeChar beyond
    exact (List.map_congr_left fun byte member => lowered_of_high (high byte member)).trans
      (List.map_id _)

/-- Making the capitals of a text small makes them small in its bytes. -/
theorem map_lowered_bytes (text : String)
    : (bytes text).map lowered = bytes (small text) := by
  rw [bytes, bytes, small, String.toList_ofList, List.map_flatMap, List.flatMap_map]
  exact List.flatMap_congr fun c _ => map_lowered_utf8EncodeChar c

/-- With the case bit set a byte is a small letter exactly if it is one with its capital made small.
-/
theorem or_caseBit_eq_iff {byte letter : UInt8} (first : 97 ≤ letter) (last : letter ≤ 122)
    : byte ||| caseBit = letter ↔ lowered byte = letter := by
  have each
      : ∀ n < 256,
          (97 ≤ UInt8.ofNat n ||| caseBit ∧ UInt8.ofNat n ||| caseBit ≤ 122
            ∨ 97 ≤ lowered (UInt8.ofNat n) ∧ lowered (UInt8.ofNat n) ≤ 122)
          → UInt8.ofNat n ||| caseBit = lowered (UInt8.ofNat n) := by
    decide +kernel
  have own := each byte.toNat byte.toNat_lt
  rw [UInt8.ofNat_toNat] at own
  constructor
  · rintro rfl
    exact (own (.inl ⟨first, last⟩)).symm
  · rintro rfl
    exact own (.inr ⟨first, last⟩)

-----------------------------------------------------------------------------------------
-- Blanks
-----------------------------------------------------------------------------------------

variable {front back : List Char}

theorem trimStart_append (blank : ∀ c ∈ front, isBlank c = true) (cs : List Char)
    : trimStart (front ++ cs) = trimStart cs :=
  List.dropWhile_append_of_pos blank

theorem trim_append (front_blank : ∀ c ∈ front, isBlank c = true)
    (back_blank : ∀ c ∈ back, isBlank c = true) (cs : List Char)
    : trim (front ++ cs ++ back) = trim cs := by
  have ends
      : trimStart (cs ++ back)
        = if (trimStart cs).isEmpty then [] else trimStart cs ++ back := by
    rw [← List.dropWhile_eq_nil_iff.mpr back_blank]
    exact List.dropWhile_append
  rw [trim, trim, List.append_assoc, trimStart_append front_blank, ends]
  cases trimStart cs with
  | nil => rfl
  | cons c rest =>
      rw [List.isEmpty_cons, if_neg Bool.false_ne_true, List.reverse_append,
        trimStart_append (by simpa using back_blank)]

/-- The blanks around a text do not show in it when it is trimmed. -/
theorem trimmed_append {front back : String} (front_blank : ∀ c ∈ front.toList, isBlank c = true)
    (back_blank : ∀ c ∈ back.toList, isBlank c = true) (code : String)
    : trimmed (front ++ code ++ back) = trimmed code := by
  rw [trimmed, trimmed, String.toList_append, String.toList_append,
    trim_append front_blank back_blank]

end Text

-----------------------------------------------------------------------------------------
-- Spellings
-----------------------------------------------------------------------------------------

namespace Month

open Text (SameButCase bytes lowered caseBit or_caseBit_eq_iff)

/-- The ways to write a month. -/
def spellings (month : Month) : List String :=
  [month.name, month.abbreviation]

/-- A text is the name of a month or its abbreviation, but for the case of ASCII letters. -/
def Spelled (month : Month) (code : String) : Prop :=
  ∃ spelling ∈ month.spellings, SameButCase code.toList spelling.toList

theorem sameLetters_eq_true_iff {a b : List Char}
    : sameLetters a b = true ↔ SameButCase a b := by
  rw [sameLetters, beq_iff_eq, ← List.forall₂_eq_eq_eq, List.forall₂_map_left_iff,
    List.forall₂_map_right_iff, SameButCase]
  simp only [Text.toLower_eq_toLower_iff]

theorem spelled_iff {month : Month} {code : String}
    : month.Spelled code
      ↔ (sameLetters code.toList month.name.toList
          || sameLetters code.toList month.abbreviation.toList) = true := by
  simp [Spelled, spellings, sameLetters_eq_true_iff]

instance (month : Month) (code : String) : Decidable (month.Spelled code) :=
  decidable_of_iff _ spelled_iff.symm

/-- The texts that spell a month have only ASCII letters. -/
theorem Spelled.isAlpha {month : Month} {code : String} (spelled : month.Spelled code)
    : ∀ c ∈ code.toList, c.isAlpha = true := by
  have letters
      : ∀ spelling ∈ month.spellings, spelling.toList.all Char.isAlpha = true := by
    cases month <;> decide +kernel
  obtain ⟨spelling, own, same⟩ := spelled
  exact same.isAlpha (List.all_eq_true.mp (letters spelling own))

-----------------------------------------------------------------------------------------
-- Reading
-----------------------------------------------------------------------------------------

theorem length_stem (month : Month)
    : (bytes month.stem).length = 3 := by
  cases month <;> rfl

theorem stem_isSmall (month : Month)
    : ∀ letter ∈ bytes month.stem, 97 ≤ letter ∧ letter ≤ 122 := by
  have small
      : (bytes month.stem).all (fun letter => 97 ≤ letter ∧ letter ≤ 122) = true := by
    cases month <;> rfl
  simpa using small

/-- No two months start with the same three letters. -/
theorem find?_stem (month : Month)
    : all.find? (fun other => bytes other.stem == bytes month.stem) = some month := by
  cases month <;> rfl

/-- Setting the case bits of three bytes leads to the letters of a month exactly if making capitals
small does.
-/
theorem map_caseBit_eq_stem_iff {front : List UInt8} {month : Month}
    : front.map (· ||| caseBit) = bytes month.stem ↔ front.map lowered = bytes month.stem := by
  have letters := month.stem_isSmall
  generalize bytes month.stem = stem at letters
  induction front generalizing stem with
  | nil => rfl
  | cons byte rest ih =>
      cases stem with
      | nil => simp
      | cons letter others =>
          obtain ⟨small, smallOthers⟩ := List.forall_mem_cons.mp letters
          simp only [List.map_cons, List.cons.injEq]
          exact and_congr (or_caseBit_eq_iff small.1 small.2) (ih others smallOthers)

/-- The letters of a month stand at the front exactly if they do with the capitals made small. -/
theorem readStem?_eq_some_iff {text rest : List UInt8} {month : Month}
    : readStem? text = some (month, rest)
      ↔ ∃ front, text = front ++ rest ∧ front.map lowered = bytes month.stem := by
  constructor
  · intro read
    unfold readStem? at read
    split at read
    · next a b c behind =>
      simp only [Option.map_eq_some_iff, Prod.mk.injEq] at read
      obtain ⟨_, found, rfl, rfl⟩ := read
      refine ⟨[a, b, c], rfl, map_caseBit_eq_stem_iff.mp ?_⟩
      have letters := List.find?_some found
      exact (beq_iff_eq.mp letters).symm
    · cases read
  · rintro ⟨front, rfl, letters⟩
    have length := congrArg List.length letters
    rw [List.length_map, length_stem] at length
    obtain ⟨a, b, c, rfl⟩ := List.length_eq_three.mp length
    change (all.find? fun other =>
      bytes other.stem == [a, b, c].map (· ||| caseBit)).map (·, rest) = _
    rw [map_caseBit_eq_stem_iff.mpr letters, find?_stem]
    rfl

/-- Nothing is left over behind a name exactly if nothing or the rest of the name follows the
letters of the month.
-/
theorem readName?_eq_some_nil_iff {text : List UInt8} {month : Month}
    : readName? text = some (month, [])
      ↔ ∃ rest,
          readStem? text = some (month, rest)
          ∧ (rest = [] ∨ rest.map lowered = bytes month.ending) := by
  rw [readName?, Option.map_eq_some_iff]
  constructor
  · rintro ⟨⟨own, rest⟩, read, left⟩
    simp only at left
    split at left
    · next follows =>
      obtain ⟨rfl, consumed⟩ := Prod.mk.inj left
      rw [List.take_of_length_le (List.drop_eq_nil_iff.mp consumed)] at follows
      exact ⟨rest, read, .inr follows⟩
    · obtain ⟨rfl, nothing⟩ := Prod.mk.inj left
      exact ⟨rest, read, .inl nothing⟩
  · rintro ⟨rest, read, behind⟩
    refine ⟨_, read, ?_⟩
    rcases behind with rfl | follows
    · simp
    · have length : rest.length = (bytes month.ending).length := by
        rw [← follows, List.length_map]
      simp only [List.take_of_length_le (Nat.le_of_eq length), if_pos follows,
        List.drop_eq_nil_of_le (Nat.le_of_eq length)]

theorem ofCode?_eq_some_iff_readName? {code : String} {month : Month}
    : ofCode? code = some month ↔ readName? (bytes code) = some (month, []) := by
  rw [ofCode?]
  split
  · next own read => simp [read]
  · next other =>
    constructor
    · nofun
    · exact fun read => absurd read (other month)

/-- With its capitals made small, a text that names a month is the three letters of the month, or
these and the rest of the name.
-/
theorem ofCode?_eq_some_iff_small {code : String} {month : Month}
    : ofCode? code = some month
      ↔ Text.small code = month.stem ∨ Text.small code = month.stem ++ month.ending := by
  rw [ofCode?_eq_some_iff_readName?, readName?_eq_some_nil_iff, ← Text.bytes_inj,
    ← Text.bytes_inj (b := month.stem ++ month.ending), Text.bytes_append, ← Text.map_lowered_bytes]
  simp only [readStem?_eq_some_iff]
  constructor
  · rintro ⟨rest, ⟨front, split, letters⟩, rfl | follows⟩
    · rw [split, List.append_nil]
      exact .inl letters
    · rw [split, List.map_append, letters, follows]
      exact .inr rfl
  · rintro (letters | whole)
    · exact ⟨[], ⟨bytes code, (List.append_nil _).symm, letters⟩, .inl rfl⟩
    · obtain ⟨front, rest, split, letters, follows⟩ := List.map_eq_append_iff.mp whole
      exact ⟨rest, ⟨front, split, letters⟩, .inr follows⟩

theorem small_abbreviation (month : Month)
    : Text.small month.abbreviation = month.stem := by
  cases month <;> rfl

theorem small_name (month : Month)
    : Text.small month.name = month.stem ++ month.ending := by
  cases month <;> rfl

/-- The texts that name a month are the spellings of its name and of its abbreviation. -/
theorem ofCode?_eq_some_iff {code : String} {month : Month}
    : ofCode? code = some month ↔ month.Spelled code := by
  rw [ofCode?_eq_some_iff_small, ← small_name, ← small_abbreviation, spelled_iff, Bool.or_eq_true,
    or_comm]
  simp only [sameLetters, beq_iff_eq, Text.small, String.ofList_inj]

theorem ofCode?_eq_none_iff {code : String}
    : ofCode? code = none ↔ ∀ month : Month, ¬month.Spelled code := by
  simp only [Option.eq_none_iff_forall_ne_some, ne_eq, ofCode?_eq_some_iff]

end Month

-----------------------------------------------------------------------------------------
-- Codes
-----------------------------------------------------------------------------------------

namespace PeriodChoice

theorem parseMonthCode_eq_ok_iff {code : String} {month : Month}
    : parseMonthCode code = .ok month ↔ month.Spelled code := by
  rw [← Month.ofCode?_eq_some_iff, parseMonthCode]
  cases Month.ofCode? code <;> simp

theorem parseMonthCode_of_not_spelled {code : String}
    (unnamed : ∀ month : Month, ¬month.Spelled code)
    : parseMonthCode code = .error (.invalidPeriodCode code) := by
  rw [parseMonthCode, Month.ofCode?_eq_none_iff.mpr unnamed]

theorem resolve_congr_trimmed {a b : String} (same : Text.trimmed a = Text.trimmed b)
    (choice : PeriodChoice) (today : Date)
    : ({ choice with monthCode := some a }).resolve today
      = ({ choice with monthCode := some b }).resolve today := by
  simp only [resolve, billingPeriod, month, chosenYear, Option.map_some, same]

/-- A month code is understood exactly if it is the English name of a month or its abbreviation but
for the case of ASCII letters, and then means this month; any other text is refused with the text as
it stands, and so is every text that has another character than an ASCII letter. A choice of a
period comes to the same with any blanks around its code.
-/
theorem parseMonthCode_grammar (code : String)
    : (∀ month, parseMonthCode code = .ok month ↔ month.Spelled code)
      ∧ ((∀ month : Month, ¬month.Spelled code)
        → parseMonthCode code = .error (.invalidPeriodCode code))
      ∧ (∀ c ∈ code.toList,
          c.isAlpha = false → parseMonthCode code = .error (.invalidPeriodCode code))
      ∧ ∀ (front back : String),
          (∀ c ∈ front.toList, Text.isBlank c = true)
          → (∀ c ∈ back.toList, Text.isBlank c = true)
          → ∀ (choice : PeriodChoice) (today : Date),
              ({ choice with monthCode := some (front ++ code ++ back) }).resolve today
              = ({ choice with monthCode := some code }).resolve today := by
  refine ⟨fun month => parseMonthCode_eq_ok_iff, parseMonthCode_of_not_spelled, ?_, ?_⟩
  · intro c member other
    apply parseMonthCode_of_not_spelled
    intro month spelled
    cases other.symm.trans (spelled.isAlpha c member)
  · intro front back front_blank back_blank choice today
    exact resolve_congr_trimmed (Text.trimmed_append front_blank back_blank code) choice today

/-- A name in mixed case is understood; a longer abbreviation and one with a long s are not. An em
space and a line break around a code make no difference.
-/
theorem parseMonthCode_grammar_sample
    : parseMonthCode "sEPTember" = .ok .september
      ∧ parseMonthCode "Sept" = .error (.invalidPeriodCode "Sept")
      ∧ parseMonthCode "ſep" = .error (.invalidPeriodCode "ſep")
      ∧ ∀ (choice : PeriodChoice) (today : Date),
          ({ choice with monthCode := some ("\u2003" ++ "may" ++ "\n") }).resolve today
          = ({ choice with monthCode := some "may" }).resolve today := by
  obtain ⟨named, _, _, _⟩ := parseMonthCode_grammar "sEPTember"
  obtain ⟨_, refused, _, _⟩ := parseMonthCode_grammar "Sept"
  obtain ⟨_, _, foreign, _⟩ := parseMonthCode_grammar "ſep"
  obtain ⟨_, _, _, around⟩ := parseMonthCode_grammar "may"
  refine ⟨(named .september).mpr (by decide +kernel), refused ?_, ?_, ?_⟩
  · exact Month.ofCode?_eq_none_iff.mp (by decide +kernel)
  · exact foreign 'ſ' (by decide +kernel) (by decide)
  · exact around "\u2003" "\n" (List.all_eq_true.mp (by decide +kernel))
      (List.all_eq_true.mp (by decide +kernel))

end PeriodChoice

end ChargeBasis

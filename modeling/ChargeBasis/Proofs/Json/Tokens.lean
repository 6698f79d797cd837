import ChargeBasis.Json.Writer
import ChargeBasis.Proofs.Text.Digits
import Mathlib

/-!
Splitting printed JSON text. A printed text is split into the very tokens it was printed from,
wherever blanks and line breaks stand between them, provided that no two words stand side by side.
-/

namespace ChargeBasis.Json

-----------------------------------------------------------------------------------------
-- Quoted texts
-----------------------------------------------------------------------------------------

/-- How a part of a quoted text stands for a character: as the character itself, or as its number if
it is a control.
-/
inductive Piece.Spells : Piece → Char → Prop
  | char (c : Char) : Spells (.char c) c
  | control (c : Char) (low : c.toNat < 0x20) : Spells (.unit c.toNat) c

theorem isHighSurrogate_of_low {code : Nat} (low : code < 0x20)
    : isHighSurrogate code = false := by
  simp only [isHighSurrogate, Bool.and_eq_false_iff, decide_eq_false_iff_not]
  omega

theorem isLowSurrogate_of_low {code : Nat} (low : code < 0x20)
    : isLowSurrogate code = false := by
  simp only [isLowSurrogate, Bool.and_eq_false_iff, decide_eq_false_iff_not]
  omega

/-- A control given by number comes in front of the characters behind it, whatever they are given
by.
-/
theorem joinPieces_control {c : Char} (low : c.toNat < 0x20) (pieces : List Piece)
    : joinPieces (.unit c.toNat :: pieces) = (joinPieces pieces).map (c :: ·) := by
  have high := isHighSurrogate_of_low low
  have second := isLowSurrogate_of_low low
  cases pieces with
  | nil => simp [joinPieces, high, second]
  | cons piece rest => cases piece <;> simp [joinPieces, high, second]

/-- The characters of a quoted text are those that its parts spell, by induction over the parts. -/
theorem joinPieces_of_spells {pieces : List Piece} {cs : List Char}
    (spells : List.Forall₂ Piece.Spells pieces cs)
    : joinPieces pieces = some cs := by
  induction spells with
  | nil => rfl
  | cons head _ ih =>
      cases head with
      | char c => rw [joinPieces, ih, Option.map_some]
      | control c low => rw [joinPieces_control low, ih, Option.map_some]

theorem hexDigit?_digitChar {d : Nat} (h : d < 16)
    : hexDigit? (Nat.digitChar d) = some d := by
  have each : ∀ d < 16, hexDigit? (Nat.digitChar d) = some d := by decide
  exact each d h

namespace Splitter

variable {found : List Token} {rest : List Char}

theorem run_cons {state next : Splitter} {c : Char} {tokens : List Token}
    (step : state.step c = some (tokens, next))
    : state.run found (c :: rest) = next.run (tokens.reverse ++ found) rest := by
  rw [run, step]

/-- A control without a letter of its own is read from its number. -/
theorem run_control {c : Char} (low : c.toNat < 0x20) (read : List Piece)
    : (quoted read).run found
        (['\\', 'u', '0', '0', Nat.digitChar (c.toNat / 16), Nat.digitChar (c.toNat % 16)] ++ rest)
      = (quoted (.unit c.toNat :: read)).run found rest := by
  have high := hexDigit?_digitChar (show c.toNat / 16 < 16 by omega)
  have last := hexDigit?_digitChar (show c.toNat % 16 < 16 by omega)
  have zero : hexDigit? '0' = some 0 := by decide
  have code : c.toNat / 16 * 16 + c.toNat % 16 = c.toNat := by omega
  simp [run, step, zero, high, last, code]

/-- A character is read back from the way it stands in a quoted text. -/
theorem run_escapeChar (c : Char) (read : List Piece)
    : ∃ piece : Piece,
        piece.Spells c
        ∧ (quoted read).run found (escapeChar c ++ rest)
          = (quoted (piece :: read)).run found rest := by
  unfold escapeChar
  split_ifs with quote backslash backspace feed newline carriage tab low
  all_goals try (subst c; exact ⟨_, .char _, by simp [run, step, escaped?]⟩)
  · exact ⟨_, .control c low, run_control low read⟩
  · exact ⟨_, .char c, by simp [run, step, quote, backslash, low]⟩

/-- The characters of a text are read back from their escapes, by induction over the text. -/
theorem run_escaped (cs : List Char) (read : List Piece)
    : ∃ pieces : List Piece,
        List.Forall₂ Piece.Spells pieces cs
        ∧ (quoted read).run found (cs.flatMap escapeChar ++ rest)
          = (quoted (pieces.reverse ++ read)).run found rest := by
  induction cs generalizing read with
  | nil => exact ⟨[], .nil, rfl⟩
  | cons c cs ih =>
      obtain ⟨piece, spells, first⟩ := run_escapeChar c read
      obtain ⟨pieces, others, later⟩ := ih (piece :: read)
      refine ⟨piece :: pieces, .cons spells others, ?_⟩
      rw [List.flatMap_cons, List.append_assoc, first, later, List.reverse_cons, List.append_assoc]
      rfl

/-- A quoted text is one token, whatever stands behind it. -/
theorem run_quote (s : String)
    : between.run found (quote s ++ rest) = between.run (.text (some s) :: found) rest := by
  have opened : between.step '"' = some ([], .quoted []) := rfl
  obtain ⟨pieces, spells, read⟩
      : ∃ pieces : List Piece,
          List.Forall₂ Piece.Spells pieces s.toList
          ∧ (quoted []).run found (s.toList.flatMap escapeChar ++ '"' :: rest)
            = (quoted (pieces.reverse ++ [])).run found ('"' :: rest) :=
    run_escaped s.toList []
  have closed
      : (quoted (pieces.reverse ++ [])).step '"' = some ([.text (some s)], .between) := by
    simp [step, joinPieces_of_spells spells]
  rw [quote, List.cons_append, run_cons opened, List.append_assoc]
  exact read.trans (run_cons closed)

-----------------------------------------------------------------------------------------
-- Words and marks
-----------------------------------------------------------------------------------------

/-- A word ends before the text: it is over, or goes on with a blank, a quote or a mark. -/
def Ends (rest : List Char) : Prop :=
  ∀ c ∈ rest.head?, endsWord c = true

/-- A run of characters none of which ends it is taken as a whole, by induction over it. -/
theorem run_word {word : List Char} (plain : ∀ c ∈ word, endsWord c = false) (read : List Char)
    : (Splitter.word read).run found (word ++ rest)
      = (Splitter.word (word.reverse ++ read)).run found rest := by
  induction word generalizing read with
  | nil => rfl
  | cons c word ih =>
      have step : (Splitter.word read).step c = some ([], .word (c :: read)) := by
        rw [Splitter.step, plain c (by simp)]
        rfl
      rw [List.cons_append, run_cons step, List.reverse_nil, List.nil_append,
        ih (fun d member => plain d (by simp [member])), List.reverse_cons, List.append_assoc]
      rfl

theorem fresh_of_plain {c : Char} (plain : endsWord c = false)
    : fresh c = ([], .word [c]) := by
  simp only [endsWord, Bool.or_eq_false_iff, beq_eq_false_iff_ne, Option.isSome_eq_false_iff,
    Option.isNone_iff_eq_none] at plain
  simp [fresh, plain]

/-- A word is one token, if it ends before what stands behind it. -/
theorem run_token_of_word {word : List Char} {token : Token}
    (plain : ∀ c ∈ word, endsWord c = false) (reads : Token.ofWord? word = some token)
    (ends : Ends rest)
    : between.run found (word ++ rest) = between.run (token :: found) rest := by
  cases word with
  | nil => cases reads
  | cons c word =>
      have opened : between.step c = some ([], .word [c]) :=
        congrArg some (fresh_of_plain (plain c (by simp)))
      rw [List.cons_append, run_cons opened,
        run_word (fun d member => plain d (by simp [member])) [c]]
      have whole : (word.reverse ++ [c]).reverse = c :: word := by simp
      cases rest with
      | nil => simp [run, finish, whole, reads]
      | cons d rest =>
          have closed
              : (Splitter.word (word.reverse ++ [c])).step d
                = some (token :: (fresh d).1, (fresh d).2) := by
            rw [step, if_pos (ends d rfl), whole, reads]
            rfl
          have next : between.step d = some ((fresh d).1, (fresh d).2) := rfl
          rw [run_cons closed, run_cons next, List.reverse_cons, List.append_assoc]
          rfl

theorem run_space {c : Char} (space : isSpace c = true)
    : between.run found (c :: rest) = between.run found rest := by
  have step : between.step c = some ([], .between) := by simp [step, fresh, space]
  exact run_cons step

theorem run_spaces {cs : List Char} (space : ∀ c ∈ cs, isSpace c = true)
    : between.run found (cs ++ rest) = between.run found rest := by
  induction cs with
  | nil => rfl
  | cons c cs ih =>
      rw [List.cons_append, run_space (space c (by simp))]
      exact ih fun d member => space d (by simp [member])

end Splitter

-----------------------------------------------------------------------------------------
-- Integers
-----------------------------------------------------------------------------------------

namespace Numeral

/-- The digits of a number can stand before the point: a second digit means that the number is
positive.
-/
theorem isWhole_ofNat (n : Nat)
    : isWhole (Digits.ofNat n) = true := by
  cases digits : Digits.ofNat n with
  | nil => exact absurd digits Nat.toDigits_ne_nil
  | cons c rest =>
      cases rest with
      | nil => rfl
      | cons d rest =>
          have positive : 0 < n := by
            rw [Nat.pos_iff_ne_zero]
            rintro rfl
            cases digits
          have first := Digits.head?_ofNat_ne_zero positive
          rw [digits] at first
          simpa [isWhole] using first

theorem ofChars?_neg {digits : List Char} (numbers : ∀ c ∈ digits, c.isDigit = true)
    (whole : isWhole digits = true)
    : ofChars? ('-' :: digits) = some ⟨true, digits, [], none⟩ := by
  have run : digits.takeWhile Char.isDigit = digits := List.takeWhile_eq_self_iff.mpr numbers
  have left : digits.dropWhile Char.isDigit = [] := List.dropWhile_eq_nil_iff.mpr numbers
  simp [ofChars?, run, left, whole, readFraction, readExponent]

theorem ofChars?_digits {digits : List Char} (numbers : ∀ c ∈ digits, c.isDigit = true)
    (whole : isWhole digits = true)
    : ofChars? digits = some ⟨false, digits, [], none⟩ := by
  have run : digits.takeWhile Char.isDigit = digits := List.takeWhile_eq_self_iff.mpr numbers
  have left : digits.dropWhile Char.isDigit = [] := List.dropWhile_eq_nil_iff.mpr numbers
  have unsigned : ∀ rest, digits ≠ '-' :: rest := by
    rintro rest rfl
    cases numbers '-' (by simp)
  simp [ofChars?, run, left, whole, readFraction, readExponent]

/-- The characters of an integer are read back. -/
theorem ofChars?_chars_ofInt (n : Int)
    : ofChars? (ofInt n).chars = some (ofInt n) := by
  have numbers (n : Nat) : ∀ c ∈ Digits.ofNat n, c.isDigit = true :=
    fun _ => Digits.isDigit_of_mem_ofNat
  cases n with
  | ofNat n => simpa [ofInt, ofNat, chars] using ofChars?_digits (numbers n) (isWhole_ofNat n)
  | negSucc n =>
      simpa [ofInt, ofNat, chars] using ofChars?_neg (numbers (n + 1)) (isWhole_ofNat (n + 1))

/-- An integer consists of digits, perhaps behind a minus sign. -/
theorem mem_chars_ofInt {n : Int} {c : Char} (member : c ∈ (ofInt n).chars)
    : c = '-' ∨ c.isDigit = true := by
  cases n with
  | ofNat n =>
      simp only [ofInt, ofNat, chars] at member
      exact .inr (Digits.isDigit_of_mem_ofNat (by simpa using member))
  | negSucc n =>
      simp only [ofInt, ofNat, chars] at member
      have cases : c = '-' ∨ c ∈ Digits.ofNat (n + 1) := by simpa using member
      exact cases.imp_right Digits.isDigit_of_mem_ofNat

end Numeral

theorem endsWord_of_isDigit {c : Char} (digit : c.isDigit = true)
    : Splitter.endsWord c = false := by
  simp [Splitter.endsWord, isSpace, Token.ofMark?, Digits.ne_of_isDigit digit]

theorem endsWord_of_mem_ofInt {n : Int} {c : Char} (member : c ∈ (Numeral.ofInt n).chars)
    : Splitter.endsWord c = false := by
  rcases Numeral.mem_chars_ofInt member with rfl | digit
  · decide
  · exact endsWord_of_isDigit digit

theorem ofWord?_ofInt (n : Int)
    : Token.ofWord? (Numeral.ofInt n).chars = some (.number (.ofInt n)) := by
  have other (word : List Char) (letter : ∃ c ∈ word, c ≠ '-' ∧ c.isDigit = false)
      : (Numeral.ofInt n).chars ≠ word := by
    rintro rfl
    obtain ⟨c, member, sign, digit⟩ := letter
    rcases Numeral.mem_chars_ofInt member with rfl | found
    · exact sign rfl
    · rw [digit] at found
      cases found
  rw [Token.ofWord?, if_neg (other _ (by simp)), if_neg (other _ (by simp)),
    if_neg (other _ (by simp)), Numeral.ofChars?_chars_ofInt, Option.map_some]

-----------------------------------------------------------------------------------------
-- Tokens
-----------------------------------------------------------------------------------------

namespace Token

/-- Whether a token is a run of characters, which only a blank, a quote or a mark ends. -/
def isWord : Token → Bool
  | .null | .bool _ | .number _ => true
  | _ => false

/-- A number among the tokens is an integer, and a text has characters. -/
def IsPlain : Token → Prop
  | .number n => ∃ i : Int, n = .ofInt i
  | .text s => ∃ value, s = some value
  | _ => True

end Token

namespace Splitter

/-- A mark is a token at once. -/
theorem run_mark {c : Char} {token : Token} (mark : Token.ofMark? c = some token)
    (space : isSpace c = false) (text : c ≠ '"')
    : between.run found (c :: rest) = between.run (token :: found) rest := by
  have step : between.step c = some ([token], .between) := by
    simp [step, fresh, space, text, mark]
  exact run_cons step

/-- A plain token is split off, if it ends before what stands behind it. -/
theorem run_token {token : Token} (plain : token.IsPlain) (ends : token.isWord = true → Ends rest)
    : between.run found (token.chars ++ rest) = between.run (token :: found) rest := by
  cases token with
  | beginArray | endArray | beginObject | endObject | colon | comma =>
      exact run_mark rfl rfl (by decide)
  | null =>
      have letters : ∀ c ∈ Token.null.chars, endsWord c = false := by
        simp [Token.chars, endsWord, isSpace, Token.ofMark?]
      exact run_token_of_word letters rfl (ends rfl)
  | bool value =>
      have letters : ∀ c ∈ (Token.bool value).chars, endsWord c = false := by
        cases value <;> simp [Token.chars, endsWord, isSpace, Token.ofMark?]
      have reads : Token.ofWord? (Token.bool value).chars = some (.bool value) := by
        cases value <;> simp [Token.chars, Token.ofWord?]
      exact run_token_of_word letters reads (ends rfl)
  | number n =>
      obtain ⟨i, rfl⟩ := plain
      exact run_token_of_word (fun _ => endsWord_of_mem_ofInt) (ofWord?_ofInt i) (ends rfl)
  | text s =>
      obtain ⟨value, rfl⟩ := plain
      exact run_quote value

/-- A token that is no word ends the word before it. -/
theorem ends_of_token {token : Token} (plain : token.IsPlain) (mark : token.isWord = false)
    : Ends (token.chars ++ rest) := by
  cases token with
  | null | bool | number => cases mark
  | beginArray | endArray | beginObject | endObject | colon | comma =>
      rintro c ⟨⟩
      decide
  | text s =>
      obtain ⟨value, rfl⟩ := plain
      rintro c ⟨⟩
      decide

end Splitter

-----------------------------------------------------------------------------------------
-- Layouts
-----------------------------------------------------------------------------------------

namespace LayoutPart

/-- The token that a part of a layout is, if it is not a blank. -/
def token? : LayoutPart → Option Token
  | .token t => some t
  | .lineBreak _ | .blank => none

/-- A part of a layout is a token or a run of blanks. -/
theorem isToken_or_blanks (part : LayoutPart)
    : (∃ t, part = .token t)
      ∨ part.token? = none ∧ part.chars ≠ [] ∧ ∀ c ∈ part.chars, isSpace c = true := by
  cases part with
  | token t => exact .inl ⟨t, rfl⟩
  | lineBreak level =>
      refine .inr ⟨rfl, List.cons_ne_nil _ _, fun c member => ?_⟩
      rcases List.mem_cons.mp member with rfl | later
      · rfl
      · rw [List.eq_of_mem_replicate later]
        rfl
  | blank => exact .inr ⟨rfl, List.cons_ne_nil _ _, by simp [chars, isSpace]⟩

end LayoutPart

/-- No two words stand side by side. -/
def Separated (tokens : List Token) : Prop :=
  tokens.IsChain fun first second => first.isWord = true → second.isWord = false

/-- A word in front of a layout ends there. -/
theorem ends_of_separated {word : Token} {parts : List LayoutPart} (isWord : word.isWord = true)
    (separated : Separated (word :: parts.filterMap LayoutPart.token?))
    (plain : ∀ token ∈ parts.filterMap LayoutPart.token?, token.IsPlain)
    : Splitter.Ends (parts.flatMap LayoutPart.chars) := by
  cases parts with
  | nil => rintro c ⟨⟩
  | cons part parts =>
      rw [List.flatMap_cons]
      rcases part.isToken_or_blanks with ⟨next, rfl⟩ | ⟨none, some_char, blanks⟩
      · have neighbours := (List.isChain_cons_cons.mp separated).1
        exact Splitter.ends_of_token (plain next (by simp [LayoutPart.token?])) (neighbours isWord)
      · obtain ⟨c, cs, chars⟩ := List.exists_cons_of_ne_nil some_char
        rw [chars] at blanks ⊢
        rintro d ⟨⟩
        simp [Splitter.endsWord, blanks c (by simp)]

/-- The text of a layout is split into its tokens, by induction over the layout. -/
theorem run_layout {parts : List LayoutPart} (found : List Token)
    (separated : Separated (parts.filterMap LayoutPart.token?))
    (plain : ∀ token ∈ parts.filterMap LayoutPart.token?, token.IsPlain)
    : Splitter.between.run found (parts.flatMap LayoutPart.chars)
      = some (found.reverse ++ parts.filterMap LayoutPart.token?) := by
  induction parts generalizing found with
  | nil => rfl
  | cons part parts ih =>
      rw [List.flatMap_cons]
      rcases part.isToken_or_blanks with ⟨token, rfl⟩ | ⟨none, _, blanks⟩
      · have first : (LayoutPart.token token).token? = some token := rfl
        rw [List.filterMap_cons_some first] at separated plain ⊢
        have others : ∀ token ∈ parts.filterMap LayoutPart.token?, token.IsPlain :=
          fun token member => plain token (by simp [member])
        rw [LayoutPart.chars, Splitter.run_token (plain token (by simp))
          fun isWord => ends_of_separated isWord separated others,
          ih (token :: found) separated.tail others, List.reverse_cons, List.append_assoc]
        rfl
      · rw [List.filterMap_cons_none none] at separated plain ⊢
        rw [Splitter.run_spaces blanks]
        exact ih found separated plain

/-- The text of a layout is made of the tokens of the layout. -/
theorem tokenize_layout {parts : List LayoutPart}
    (separated : Separated (parts.filterMap LayoutPart.token?))
    (plain : ∀ token ∈ parts.filterMap LayoutPart.token?, token.IsPlain)
    : tokenize (parts.flatMap LayoutPart.chars) = some (parts.filterMap LayoutPart.token?) :=
  run_layout [] separated plain

end ChargeBasis.Json

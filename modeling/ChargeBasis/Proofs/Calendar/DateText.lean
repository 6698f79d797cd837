import ChargeBasis.Proofs.Calendar.DayNumber
import ChargeBasis.Proofs.Calendar.YearText
import ChargeBasis.Proofs.Text.Digits
import Mathlib

/-!
Reading printed dates. Every date is read back from its text `YYYY-MM-DD`, also one whose year has
a sign and more than four digits.
-/

namespace ChargeBasis

namespace Text

theorem trimStart_digits {digits : List Char} (numbers : ∀ c ∈ digits, c.isDigit = true)
    (some_digit : digits ≠ []) (rest : List Char)
    : trimStart (digits ++ rest) = digits ++ rest := by
  obtain ⟨c, digits, rfl⟩ := List.exists_cons_of_ne_nil some_digit
  exact trimStart_cons (isBlank_of_isDigit (numbers c (by simp))) _

end Text

namespace DateText

variable {rest : List Char}

/-- A number with zeros in front is read up to the character that ends it. -/
theorem number_padded {width : Option Nat} {places n : Nat}
    (short : ∀ w ∈ width, (Digits.padded places n).length ≤ w) (small : n < numberLimit)
    (ends : EndsNumber rest)
    : number width (Digits.padded places n ++ rest) = .ok (n, rest) := by
  have value := Digits.value_padded places n
  have read := number_append (fun _ => Digits.isDigit_of_mem_padded)
    (Digits.padded_ne_nil places n) short (by rwa [value]) ends
  rwa [value] at read

theorem mark_dash (rest : List Char)
    : mark '-' ('-' :: rest) = .ok ((), rest) :=
  rfl

theorem twoDigits_padded {n : Nat} (fits : n < 100) (ends : EndsNumber rest)
    : twoDigits (Digits.padded 2 n ++ rest) = .ok (n, rest) := by
  have length : (Digits.padded 2 n).length = 2 := Digits.length_padded (by decide) fits
  rw [twoDigits, Text.trimStart_digits (fun _ => Digits.isDigit_of_mem_padded)
    (Digits.padded_ne_nil 2 n)]
  exact number_padded (by simp [length]) (fits.trans (by decide)) ends

/-- A year that four digits hold is read up to the character behind it. -/
theorem year_padded {n : Nat} (short : n ≤ 9999) (ends : EndsNumber rest)
    : year (Digits.padded 4 n ++ rest) = .ok ((n : Int), rest) := by
  have fits : n < tenPow 4 := Nat.lt_of_le_of_lt short (by decide)
  have length : (Digits.padded 4 n).length = 4 := Digits.length_padded (by decide) fits
  have read : number (some 4) (Digits.padded 4 n ++ rest) = .ok (n, rest) :=
    number_padded (by simp [length]) (fits.trans (by decide)) ends
  have digits := Text.trimStart_digits (fun _ => Digits.isDigit_of_mem_padded)
    (Digits.padded_ne_nil 4 n) rest
  obtain ⟨c, others, first⟩ := List.exists_cons_of_ne_nil (Digits.padded_ne_nil 4 n)
  have digit : c.isDigit = true := Digits.isDigit_of_mem_padded (first ▸ List.mem_cons_self)
  rw [first, List.cons_append] at read digits ⊢
  rw [year_of_digit digit digits, read]
  rfl

/-- A year with a sign is read up to the character behind it, however many digits it has. -/
theorem year_signed {n : Nat} (small : n < numberLimit) (ends : EndsNumber rest)
    : year ('-' :: (Digits.padded 4 n ++ rest)) = .ok (-(n : Int), rest)
      ∧ year ('+' :: (Digits.padded 4 n ++ rest)) = .ok ((n : Int), rest) := by
  have read : number none (Digits.padded 4 n ++ rest) = .ok (n, rest) :=
    number_padded (by simp) small ends
  constructor
  · rw [year, Text.trimStart_cons rfl]
    exact congrArg (Except.map _) read
  · rw [year, Text.trimStart_cons rfl]
    exact congrArg (Except.map _) read

theorem endsNumber_dash (rest : List Char)
    : EndsNumber ('-' :: rest) := by
  rintro c ⟨⟩
  rfl

/-- A printed year is read up to the dash behind it. -/
theorem year_yearChars {y : Int} (lower : Date.minYear ≤ y) (upper : y ≤ Date.maxYear)
    : year (Date.yearChars y ++ '-' :: rest) = .ok (y, '-' :: rest) := by
  have ends := endsNumber_dash rest
  have small : y.natAbs < numberLimit := by
    simp only [Date.minYear, Date.maxYear] at lower upper
    simp only [numberLimit]
    omega
  rw [Date.yearChars]
  split
  · next short =>
    rw [year_padded (by omega) ends, Int.natAbs_of_nonneg short.1]
  · next long =>
    obtain ⟨below, above⟩ := year_signed small ends
    split
    · next negative =>
      rw [List.cons_append, below, Int.ofNat_natAbs_of_nonpos negative.le, Int.neg_neg]
    · next positive =>
      rw [List.cons_append, above, Int.natAbs_of_nonneg (Int.not_lt.mp positive)]

end DateText

theorem Month.ofNumber?_number (month : Month)
    : ofNumber? month.number = some month := by
  cases month <;> rfl

namespace Date

theorem ofNumbers?_self (d : Date)
    : ofNumbers? d.year d.month.number d.day = some d := by
  rw [ofNumbers?, Month.ofNumber?_number, Option.bind_some]
  exact of?_eq_some_iff.mpr ⟨rfl, rfl, rfl⟩

theorem day_le_31 (d : Date)
    : d.day ≤ 31 :=
  d.day_le.trans (d.month.length_le _)

/-- A date is read back from its text. -/
theorem parse_text (d : Date)
    : parse d.text = .ok d := by
  have month := DateText.twoDigits_padded (Nat.lt_of_le_of_lt d.month.number_le (by decide))
    (DateText.endsNumber_dash (Digits.padded 2 d.day))
  have day : DateText.twoDigits (Digits.padded 2 d.day ++ []) = .ok (d.day, []) :=
    DateText.twoDigits_padded (Nat.lt_of_le_of_lt d.day_le_31 (by decide)) nofun
  rw [List.append_nil] at day
  have whole : DateText.isoDate d.text.toList = .ok (d, []) := by
    rw [text, String.toList_ofList, List.append_assoc]
    simp only [DateText.isoDate, bind, Except.bind, List.cons_append]
    simp only [DateText.year_yearChars d.minYear_le d.le_maxYear, DateText.mark_dash, month, day,
      d.ofNumbers?_self]
    rfl
  rw [parse, whole]
  rfl

end Date

end ChargeBasis

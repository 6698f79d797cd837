import ChargeBasis.Calendar.DateText
import ChargeBasis.Decimal.TenPow
import Mathlib.Data.List.TakeWhile

/-!
Reading the year of a date. The digits of a year are read to the end of the text exactly if there
are at most four of them or a sign stands in front.
-/

namespace ChargeBasis

namespace Digits

/-- A run of digits stays below the power of ten for its length, by induction over the run. -/
theorem ofDigitChars_lt {digits : List Char} (h : ∀ c ∈ digits, c.isDigit = true) (start : Nat)
    : Nat.ofDigitChars 10 digits start < (start + 1) * tenPow digits.length := by
  induction digits generalizing start with
  | nil => simp [tenPow_zero]
  | cons c rest ih =>
      have digit : c.toNat - '0'.toNat ≤ 9 := by
        have bounds := h c (by simp)
        simp only [Char.isDigit, Bool.and_eq_true, decide_eq_true_eq] at bounds
        have upper : c.toNat ≤ 57 := bounds.2
        have zero : '0'.toNat = 48 := rfl
        omega
      have inner := ih (fun d member => h d (by simp [member])) (10 * start + (c.toNat - '0'.toNat))
      rw [Nat.ofDigitChars_cons, List.length_cons, tenPow_succ]
      calc Nat.ofDigitChars 10 rest (10 * start + (c.toNat - '0'.toNat))
          < (10 * start + (c.toNat - '0'.toNat) + 1) * tenPow rest.length := inner
        _ ≤ ((start + 1) * 10) * tenPow rest.length := Nat.mul_le_mul_right _ (by omega)
        _ = (start + 1) * (tenPow rest.length * 10) := by rw [Nat.mul_assoc, Nat.mul_comm 10]

end Digits

namespace Text

/-- A visible ASCII character is no blank. -/
theorem isBlank_eq_false {c : Char} (lower : 0x21 ≤ c.toNat) (upper : c.toNat ≤ 0x7e)
    : isBlank c = false := by
  simp [isBlank]
  omega

theorem isBlank_of_isDigit {c : Char} (digit : c.isDigit = true)
    : isBlank c = false := by
  simp only [Char.isDigit, Bool.and_eq_true, decide_eq_true_eq] at digit
  have lower : 48 ≤ c.toNat := digit.1
  have upper : c.toNat ≤ 57 := digit.2
  exact isBlank_eq_false (by omega) (by omega)

theorem trimStart_cons {c : Char} (visible : isBlank c = false) (rest : List Char)
    : trimStart (c :: rest) = c :: rest :=
  List.dropWhile_cons_of_neg (by simp [visible])

end Text

namespace DateText

/-- No digit comes next. -/
def EndsNumber (rest : List Char) : Prop :=
  ∀ c ∈ rest.head?, c.isDigit = false

/-- A run of digits is read up to the character that ends it. -/
theorem number_append {width : Option Nat} {digits rest : List Char}
    (numbers : ∀ c ∈ digits, c.isDigit = true) (some_digit : digits ≠ [])
    (short : ∀ w ∈ width, digits.length ≤ w) (small : Digits.value digits < numberLimit)
    (ends : EndsNumber rest)
    : number width (digits ++ rest) = .ok (Digits.value digits, rest) := by
  have stop : rest.takeWhile Char.isDigit = [] := by
    cases rest with
    | nil => rfl
    | cons c rest => simp [ends c rfl]
  have run : (digits ++ rest).takeWhile Char.isDigit = digits := by
    rw [List.takeWhile_append_of_pos numbers, stop, List.append_nil]
  unfold number
  cases width with
  | none => simp [run, some_digit, small]
  | some w =>
      have whole : digits.take w = digits := List.take_of_length_le (short w rfl)
      simp [run, whole, some_digit, small]

theorem takeWhile_ofNat (n : Nat)
    : (Digits.ofNat n).takeWhile Char.isDigit = Digits.ofNat n :=
  List.takeWhile_eq_self_iff.mpr fun _ member => Digits.isDigit_of_mem_ofNat member

/-- A number is read up to the end of a text that consists of its digits. -/
theorem number_ofNat {width : Option Nat} {n : Nat} (small : n < numberLimit)
    (fits : ∀ w ∈ width, (Digits.ofNat n).length ≤ w)
    : number width (Digits.ofNat n) = .ok (n, []) := by
  have read : number width (Digits.ofNat n ++ []) = .ok (Digits.value (Digits.ofNat n), []) :=
    number_append (fun _ => Digits.isDigit_of_mem_ofNat) Nat.toDigits_ne_nil fits
      (by rwa [Digits.value_ofNat]) (by simp [EndsNumber])
  rwa [List.append_nil, Digits.value_ofNat] at read

/-- Of a number with more than four digits something is left. -/
theorem number_ofNat_of_longer {n : Nat} (longer : 4 < (Digits.ofNat n).length)
    : ∃ m rest, number (some 4) (Digits.ofNat n) = .ok (m, rest) ∧ rest ≠ [] := by
  have front : ((Digits.ofNat n).take 4).length = 4 := by
    rw [List.length_take]
    omega
  have some_digit : (Digits.ofNat n).take 4 ≠ [] := by
    intro none
    rw [none] at front
    cases front
  have small : Digits.value ((Digits.ofNat n).take 4) < numberLimit := by
    have digits : ∀ c ∈ (Digits.ofNat n).take 4, c.isDigit = true := fun c member =>
      Digits.isDigit_of_mem_ofNat (List.mem_of_mem_take member)
    have bound := Digits.ofDigitChars_lt digits 0
    rw [front] at bound
    exact Nat.lt_trans bound (by decide)
  refine ⟨Digits.value ((Digits.ofNat n).take 4), (Digits.ofNat n).drop 4, ?_, ?_⟩
  · unfold number
    simp only [takeWhile_ofNat, List.isEmpty_iff, some_digit, if_false, front,
      if_neg (Nat.not_le.mpr small)]
  · simp only [ne_eq, List.drop_eq_nil_iff]
    omega

/-- A year that starts with a digit is read as a number of at most four digits. -/
theorem year_of_digit {cs rest : List Char} {c : Char} (digit : c.isDigit = true)
    (trimmed : Text.trimStart cs = c :: rest)
    : year cs = (number (some 4) (c :: rest)).map fun (n, rest) => ((n : Int), rest) := by
  unfold year
  rw [trimmed]
  -- a digit is neither of the signs
  split
  · next same =>
    cases same
    cases digit
  · next same =>
    cases same
    cases digit
  · rfl

theorem year_of_digits (n : Nat)
    : year (' ' :: Digits.ofNat n)
      = (number (some 4) (Digits.ofNat n)).map fun (n, rest) => ((n : Int), rest) := by
  cases digits : Digits.ofNat n with
  | nil => exact absurd digits Nat.toDigits_ne_nil
  | cons c rest =>
      have digit : c.isDigit = true := Digits.isDigit_of_mem_ofNat (digits ▸ List.mem_cons_self)
      have trimmed : Text.trimStart (' ' :: c :: rest) = c :: rest :=
        Text.trimStart_cons (Text.isBlank_of_isDigit digit) rest
      exact year_of_digit digit trimmed

/-- A year of at most four digits, or one below zero, is read to the end of the text. -/
theorem year_ofInt {y : Int} (lower : -(numberLimit : Int) < y) (upper : y ≤ 9999)
    : year (' ' :: Digits.ofInt y) = .ok (y, []) := by
  cases y with
  | ofNat n =>
      have short : (Digits.ofNat n).length ≤ 4 := by
        apply (Nat.length_toDigits_le_iff (by decide) (by decide)).mpr
        have bound : (n : Int) ≤ 9999 := upper
        omega
      have small : n < numberLimit := by
        have bound : (n : Int) ≤ 9999 := upper
        simp only [numberLimit]
        omega
      rw [Digits.ofInt, year_of_digits, number_ofNat small fun w same => by cases same; exact short]
      rfl
  | negSucc n =>
      have small : n + 1 < numberLimit := by omega
      change (number none (Digits.ofNat (n + 1))).map _ = _
      rw [number_ofNat small fun w same => by cases same]
      rfl

/-- Of a year with more than four digits something is left. -/
theorem year_ofInt_of_longer {y : Int} (h : 9999 < y)
    : ∃ m rest, year (' ' :: Digits.ofInt y) = .ok (m, rest) ∧ rest ≠ [] := by
  cases y with
  | ofNat n =>
      have longer : 4 < (Digits.ofNat n).length := by
        rw [← Nat.not_le]
        intro short
        have bound := (Nat.length_toDigits_le_iff (by decide) (by decide)).mp short
        have large : (9999 : Int) < n := h
        omega
      obtain ⟨m, rest, read, left⟩ := number_ofNat_of_longer longer
      exact ⟨m, rest, by rw [Digits.ofInt, year_of_digits, read]; rfl, left⟩
  | negSucc n => omega

end DateText

end ChargeBasis

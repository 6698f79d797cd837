import ChargeBasis.Decimal.TenPow
import ChargeBasis.Text.Digits
import Mathlib

/-! Runs of digits, with or without zeros in front: their characters, length and value. -/

namespace ChargeBasis.Digits

-----------------------------------------------------------------------------------------
-- Digits
-----------------------------------------------------------------------------------------

theorem ne_of_isDigit {c d : Char} (digit : c.isDigit = true) (other : d.isDigit = false)
    : c ≠ d := by
  rintro rfl
  rw [other] at digit
  cases digit

theorem digit?_of_isDigit {c : Char} (digit : c.isDigit = true)
    : digit? c = some (c.toNat - '0'.toNat) :=
  if_pos digit

/-- The digits of a positive number do not start with a zero, by induction over the number. -/
theorem head?_ofNat_ne_zero {n : Nat} (positive : 0 < n)
    : (ofNat n).head? ≠ some '0' := by
  induction n using Nat.strongRecOn with
  | ind n ih =>
      rw [ofNat]
      by_cases small : n < 10
      · rw [Nat.toDigits_of_lt_base small]
        intro same
        have zero : Nat.digitChar n = '0' := by simpa using same
        exact positive.ne' (Nat.digitChar_eq_zero.mp zero)
      · rw [Nat.toDigits_of_base_le (by decide) (Nat.le_of_not_lt small),
          List.head?_append_of_ne_nil _ Nat.toDigits_ne_nil]
        exact ih (n / 10) (by omega) (by omega)

/-- A further digit does not make a number smaller. -/
theorem le_ofDigitChars (digits : List Char) (start : Nat)
    : start ≤ Nat.ofDigitChars 10 digits start := by
  rw [Nat.ofDigitChars_eq_ofDigitChars_zero]
  have power : 0 < 10 ^ digits.length := Nat.pow_pos (by decide)
  calc start = 1 * start := (Nat.one_mul start).symm
    _ ≤ 10 ^ digits.length * start := Nat.mul_le_mul_right start power
    _ ≤ _ := Nat.le_add_right _ _

-----------------------------------------------------------------------------------------
-- Zeros in front
-----------------------------------------------------------------------------------------

/-- Zeros in front of a number fill its width, if the number is not too long for it. -/
theorem length_padded {width n : Nat} (positive : 0 < width) (fits : n < tenPow width)
    : (padded width n).length = width := by
  have short : (ofNat n).length ≤ width :=
    (Nat.length_toDigits_le_iff (by decide) positive).mpr fits
  rw [padded, List.length_append, List.length_replicate]
  omega

theorem isDigit_of_mem_padded {width n : Nat} {c : Char} (member : c ∈ padded width n)
    : c.isDigit = true := by
  rcases List.mem_append.mp member with zero | digit
  · rw [List.eq_of_mem_replicate zero]
    rfl
  · exact isDigit_of_mem_ofNat digit

theorem padded_ne_nil (width n : Nat)
    : padded width n ≠ [] :=
  List.append_ne_nil_of_right_ne_nil _ Nat.toDigits_ne_nil

/-- Zeros in front of a number do not count. -/
theorem value_padded (width n : Nat)
    : value (padded width n) = n := by
  rw [value, padded, Nat.ofDigitChars_append, Nat.ofDigitChars_replicate_zero, Nat.mul_zero]
  exact value_ofNat n

/-- Digits behind a number move it to the left by as many places. -/
theorem ofDigitChars_padded {width n : Nat} (positive : 0 < width) (fits : n < tenPow width)
    (start : Nat)
    : Nat.ofDigitChars 10 (padded width n) start = start * tenPow width + n := by
  rw [Nat.ofDigitChars_eq_ofDigitChars_zero, length_padded positive fits, Nat.mul_comm]
  exact congrArg (start * tenPow width + ·) (value_padded width n)

end ChargeBasis.Digits

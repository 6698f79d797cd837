import ChargeBasis.Decimal.Text
import ChargeBasis.Proofs.Text.Digits

/-!
Reading printed decimals. A decimal is read back from its text with all its places; only the sign
of a zero is not.
-/

namespace ChargeBasis.Decimal

-----------------------------------------------------------------------------------------
-- Digits
-----------------------------------------------------------------------------------------

/-- A digit for which there is room is taken; behind the point it is one more place. -/
theorem readDigits_digit {c : Char} (digit : c.isDigit = true) {seen : Partial}
    (place : seen.scale < maxScale) {rest : List Char}
    (room : Nat.ofDigitChars 10 (c :: rest) seen.units < limit) (others : List Char)
    : readDigits seen (c :: others)
      = readDigits
          { units := 10 * seen.units + (c.toNat - '0'.toNat)
            scale := if seen.point then seen.scale + 1 else 0
            point := seen.point
            started := true }
          others := by
  rw [Nat.ofDigitChars_cons] at room
  have fits : 10 * seen.units + (c.toNat - '0'.toNat) < limit :=
    Nat.lt_of_le_of_lt (Digits.le_ofDigitChars rest _) room
  rw [readDigits, if_neg place.ne, Digits.digit?_of_isDigit digit]
  simp only [Nat.mul_comm seen.units, if_pos fits]

/-- The digits in front of the point make a whole number, by induction over the digits. -/
theorem readDigits_whole {digits : List Char} (numbers : ∀ c ∈ digits, c.isDigit = true)
    {units : Nat} (room : Nat.ofDigitChars 10 digits units < limit) (others : List Char)
    : readDigits ⟨units, 0, false, true⟩ (digits ++ others)
      = readDigits ⟨Nat.ofDigitChars 10 digits units, 0, false, true⟩ others := by
  induction digits generalizing units with
  | nil => rfl
  | cons c digits ih =>
      rw [List.forall_mem_cons] at numbers
      rw [List.cons_append, readDigits_digit numbers.1 (Nat.zero_lt_succ _) room]
      exact ih numbers.2 (Nat.ofDigitChars_cons ▸ room)

theorem readDigits_point (units : Nat) (others : List Char)
    : readDigits ⟨units, 0, false, true⟩ ('.' :: others)
      = readDigits ⟨units, 0, true, true⟩ others := by
  rw [readDigits, if_neg (show ¬ 0 = maxScale by decide)]
  rfl

/-- The digits behind the point are the last ones of the units and all count as places, by
induction over the digits.
-/
theorem readDigits_places {digits : List Char} (numbers : ∀ c ∈ digits, c.isDigit = true)
    {units scale : Nat} (places : scale + digits.length ≤ maxScale)
    (room : Nat.ofDigitChars 10 digits units < limit)
    : readDigits ⟨units, scale, true, true⟩ digits
      = .ok (Nat.ofDigitChars 10 digits units, scale + digits.length) := by
  induction digits generalizing units scale with
  | nil => rfl
  | cons c digits ih =>
      rw [List.forall_mem_cons] at numbers
      rw [List.length_cons] at places
      have place : scale < maxScale := by omega
      rw [readDigits_digit numbers.1 place room]
      have later := ih numbers.2 (by omega : scale + 1 + digits.length ≤ maxScale)
        (Nat.ofDigitChars_cons ▸ room)
      rw [List.length_cons, Nat.add_comm digits.length, ← Nat.add_assoc]
      exact later

/-- The first digits of a number are its whole part. -/
theorem readDigits_ofNat {n : Nat} (room : n < limit) (others : List Char)
    : readDigits ⟨0, 0, false, false⟩ (Digits.ofNat n ++ others)
      = readDigits ⟨n, 0, false, true⟩ others := by
  have numbers : ∀ c ∈ Digits.ofNat n, c.isDigit = true := fun _ => Digits.isDigit_of_mem_ofNat
  have value : Nat.ofDigitChars 10 (Digits.ofNat n) 0 = n := Digits.value_ofNat n
  cases digits : Digits.ofNat n with
  | nil => exact absurd digits Nat.toDigits_ne_nil
  | cons c rest =>
      rw [digits, List.forall_mem_cons] at numbers
      rw [digits] at value
      have room' : Nat.ofDigitChars 10 (c :: rest) 0 < limit := value.symm ▸ room
      rw [List.cons_append, readDigits_digit numbers.1 (Nat.zero_lt_succ _) room']
      rw [Nat.ofDigitChars_cons] at value room'
      exact (readDigits_whole numbers.2 room' others).trans (by rw [value])

-----------------------------------------------------------------------------------------
-- Decimals
-----------------------------------------------------------------------------------------

/-- The digits and the point of a decimal are read as its magnitude and its scale. -/
theorem readDigits_unsigned (x : Decimal)
    : readDigits ⟨0, 0, false, false⟩
        (Digits.ofNat (x.magnitude / tenPow x.scale)
          ++ if x.scale = 0 then []
            else '.' :: Digits.padded x.scale (x.magnitude % tenPow x.scale))
      = .ok (x.magnitude, x.scale) := by
  have whole : x.magnitude / tenPow x.scale < limit :=
    Nat.lt_of_le_of_lt (Nat.div_le_self _ _) x.magnitude_lt
  rw [readDigits_ofNat whole]
  split
  · next none =>
    rw [none, tenPow_zero, Nat.div_one]
    rfl
  · next some =>
    have positive : 0 < x.scale := Nat.pos_of_ne_zero some
    have behind : x.magnitude % tenPow x.scale < tenPow x.scale := Nat.mod_lt _ (tenPow_pos _)
    have units : Nat.ofDigitChars 10 (Digits.padded x.scale (x.magnitude % tenPow x.scale))
        (x.magnitude / tenPow x.scale) = x.magnitude := by
      rw [Digits.ofDigitChars_padded positive behind]
      exact Nat.div_add_mod' _ _
    have length := Digits.length_padded positive behind
    rw [readDigits_point, readDigits_places (fun _ => Digits.isDigit_of_mem_padded)
      (by rw [length, Nat.zero_add]; exact x.scale_le) (by rw [units]; exact x.magnitude_lt),
      units, length, Nat.zero_add]

/-- Units below zero are those of a negative number. -/
theorem units_neg_iff (x : Decimal)
    : x.units < 0 ↔ x.isNegative = true := by
  cases sign : x.negative <;> simp [units, isNegative, isZero, sign, Nat.pos_iff_ne_zero]

/-- The units of a decimal and its scale make the decimal, up to the sign of a zero. -/
theorem ofUnits?_units (x : Decimal)
    : ofUnits? x.units x.scale = some x.unsignZero := by
  have sign : decide (x.units < 0) = x.isNegative := by
    rw [Bool.eq_iff_iff, decide_eq_true_iff, units_neg_iff]
  simp [ofUnits?, ofMagnitude?, sign, x.magnitude_lt, x.scale_le, unsignZero]

theorem readPlain_neg {digits : List Char} {units scale : Nat} {x : Decimal}
    (read : readDigits ⟨0, 0, false, false⟩ digits = .ok (units, scale))
    (made : ofUnits? (-(units : Int)) scale = some x)
    : readPlain ('-' :: digits) = .ok x := by
  simp [readPlain, read, made, bind, Except.bind, pure, Except.pure]

theorem readPlain_digit {c : Char} (digit : c.isDigit = true) {rest : List Char}
    {units scale : Nat} {x : Decimal}
    (read : readDigits ⟨0, 0, false, false⟩ (c :: rest) = .ok (units, scale))
    (made : ofUnits? units scale = some x)
    : readPlain (c :: rest) = .ok x := by
  have minus : c ≠ '-' := Digits.ne_of_isDigit digit rfl
  have plus : c ≠ '+' := Digits.ne_of_isDigit digit rfl
  simp [readPlain, minus, plus, read, made, bind, Except.bind, pure, Except.pure]

theorem readPlain_chars (x : Decimal)
    : readPlain x.chars = .ok x.unsignZero := by
  have digits := readDigits_unsigned x
  have made := ofUnits?_units x
  rw [units] at made
  rw [chars, List.append_assoc]
  cases sign : x.negative with
  | true =>
      rw [sign, if_pos rfl] at made
      exact readPlain_neg digits made
  | false =>
      rw [sign, if_neg Bool.false_ne_true] at made
      rw [if_neg Bool.false_ne_true, List.nil_append]
      cases first : Digits.ofNat (x.magnitude / tenPow x.scale) with
      | nil => exact absurd first Nat.toDigits_ne_nil
      | cons c rest =>
          have digit : c.isDigit = true :=
            Digits.isDigit_of_mem_ofNat (first ▸ List.mem_cons_self)
          rw [first] at digits
          exact readPlain_digit digit digits made

/-- A decimal is read back from its text, a zero without a sign. -/
theorem parse_text (x : Decimal)
    : parse x.text = .ok x.unsignZero := by
  rw [parse, text, String.toList_ofList, readPlain_chars]

end ChargeBasis.Decimal

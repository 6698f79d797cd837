import ChargeBasis.Uuid
import Mathlib

/-! Reading printed identifiers: every identifier is read back from its text. -/

namespace ChargeBasis.Uuid

-----------------------------------------------------------------------------------------
-- Hexadecimal digits
-----------------------------------------------------------------------------------------

/-- The number that hexadecimal digits stand for. -/
def number (digits : List Nat) : Nat :=
  digits.foldl (fun n digit => n * 16 + digit) 0

/-- Printed digits are those of a list of numbers below 16 that together make the number printed, by
induction over the number.
-/
theorem exists_toDigits_eq_map (n : Nat)
    : ∃ digits : List Nat,
        Nat.toDigits 16 n = digits.map Nat.digitChar
        ∧ (∀ d ∈ digits, d < 16)
        ∧ number digits = n := by
  induction n using Nat.strongRecOn with
  | ind n ih =>
      by_cases small : n < 16
      · exact ⟨[n], by rw [Nat.toDigits_of_lt_base small]; rfl, by simpa using small,
          by simp [number]⟩
      · obtain ⟨digits, printed, bounds, value⟩ := ih (n / 16) (by omega)
        have last : n % 16 < 16 := by omega
        refine ⟨digits ++ [n % 16], ?_, ?_, ?_⟩
        · rw [Nat.toDigits_of_base_le (by decide) (Nat.le_of_not_lt small), printed,
            List.map_append]
          rfl
        · simpa [or_imp, forall_and] using ⟨bounds, last⟩
        · rw [number] at value
          rw [number, List.foldl_append, value]
          exact Nat.div_add_mod' n 16

theorem number_replicate_append (k : Nat) (digits : List Nat)
    : number (List.replicate k 0 ++ digits) = number digits := by
  have zeros : (List.replicate k 0).foldl (fun n digit => n * 16 + digit) 0 = 0 := by
    induction k with
    | zero => rfl
    | succ k ih => exact ih
  rw [number, List.foldl_append, zeros, number]

/-- The digits of an identifier are 32 numbers below 16 that make its bits. -/
theorem exists_hexDigits_eq_map (id : Uuid)
    : ∃ digits : List Nat,
        id.hexDigits = digits.map Nat.digitChar
        ∧ (∀ d ∈ digits, d < 16)
        ∧ digits.length = 32
        ∧ number digits = id.bits.toNat := by
  obtain ⟨digits, printed, bounds, value⟩ := exists_toDigits_eq_map id.bits.toNat
  have fits : id.bits.toNat < 16 ^ 32 := id.bits.isLt
  have short : digits.length ≤ 32 := by
    rw [← List.length_map (f := Nat.digitChar), ← printed]
    exact (Nat.length_toDigits_le_iff (by decide) (by decide)).mpr fits
  refine ⟨List.replicate (32 - digits.length) 0 ++ digits, ?_, ?_, ?_, ?_⟩
  · simp [hexDigits, printed]
  · intro d member
    rcases List.mem_append.mp member with zero | digit
    · rw [List.eq_of_mem_replicate zero]
      decide
    · exact bounds d digit
  · rw [List.length_append, List.length_replicate]
    omega
  · rw [number_replicate_append, value]

theorem digit?_digitChar {d : Nat} (h : d < 16)
    : digit? (Nat.digitChar d) = some d := by
  have each : ∀ d < 16, digit? (Nat.digitChar d) = some d := by decide
  exact each d h

theorem mapM_digit? {digits : List Nat} (bounds : ∀ d ∈ digits, d < 16)
    : (digits.map Nat.digitChar).mapM digit? = some digits := by
  induction digits with
  | nil => rfl
  | cons d digits ih =>
      rw [List.forall_mem_cons] at bounds
      rw [List.map_cons, List.mapM_cons, digit?_digitChar bounds.1, ih bounds.2]
      rfl

/-- The digits of an identifier are read as the identifier. -/
theorem ofDigits?_hexDigits (id : Uuid)
    : ofDigits? id.hexDigits = some id := by
  obtain ⟨digits, printed, bounds, length, value⟩ := id.exists_hexDigits_eq_map
  rw [number] at value
  simp [ofDigits?, printed, length, mapM_digit? bounds, value]

-----------------------------------------------------------------------------------------
-- Groups of digits
-----------------------------------------------------------------------------------------

/-- Hyphens between groups are taken away again, by induction over the groups. -/
theorem unhyphenate?_hyphenate {sizes : List Nat} {digits : List Char}
    (enough : sizes.sum ≤ digits.length)
    : unhyphenate? sizes (hyphenate sizes digits) = some digits := by
  induction sizes generalizing digits with
  | nil => rfl
  | cons size sizes ih =>
      cases sizes with
      | nil => rfl
      | cons next sizes =>
          rw [List.sum_cons] at enough
          have front : (digits.take size).length = size := List.length_take_of_le (by omega)
          have back : (next :: sizes).sum ≤ (digits.drop size).length := by
            rw [List.length_drop]
            omega
          have others : (hyphenate (size :: next :: sizes) digits).drop size
              = '-' :: hyphenate (next :: sizes) (digits.drop size) := List.drop_left' front
          have first : (hyphenate (size :: next :: sizes) digits).take size = digits.take size :=
            List.take_left' front
          simp only [unhyphenate?, others, first, ih back, Option.map_some, List.take_append_drop]

/-- Between any two groups stands one hyphen, by induction over the groups. -/
theorem length_hyphenate (sizes : List Nat) (digits : List Char)
    : (hyphenate sizes digits).length = digits.length + (sizes.length - 1) := by
  induction sizes generalizing digits with
  | nil => rfl
  | cons size sizes ih =>
      cases sizes with
      | nil => rfl
      | cons next sizes =>
          have split : hyphenate (size :: next :: sizes) digits
              = digits.take size ++ '-' :: hyphenate (next :: sizes) (digits.drop size) := rfl
          rw [split, List.length_append, List.length_cons, ih, List.length_drop, List.length_take]
          simp only [List.length_cons]
          omega

-----------------------------------------------------------------------------------------
-- Identifiers
-----------------------------------------------------------------------------------------

theorem digitChar_ne {d : Nat} (h : d < 16)
    : Nat.digitChar d ≠ '\x7b' ∧ (Nat.digitChar d).toLower ≠ 'u' := by
  have each : ∀ d < 16, Nat.digitChar d ≠ '\x7b' ∧ (Nat.digitChar d).toLower ≠ 'u' := by decide
  exact each d h

/-- Plain groups of digits are read as such: they start with neither a brace nor a scheme. -/
theorem parse?_of_digit {d : Nat} (h : d < 16) {rest : List Char}
    (length : (Nat.digitChar d :: rest).length = 36)
    : parse? (String.ofList (Nat.digitChar d :: rest))
      = ofHyphenated? (Nat.digitChar d :: rest) := by
  obtain ⟨brace, letter⟩ := digitChar_ne h
  have word : "urn:uuid:".toList = ['u', 'r', 'n', ':', 'u', 'u', 'i', 'd', ':'] := by simp
  have scheme : ((Nat.digitChar d :: rest).take 9).map Char.toLower ≠ "urn:uuid:".toList := by
    intro same
    rw [word] at same
    exact letter (List.cons.inj same).1
  unfold parse?
  rw [String.toList_ofList]
  dsimp only
  split
  · next same => exact absurd (List.cons.inj same).1 brace
  · rw [if_neg scheme, if_neg (by rw [length]; decide)]

/-- An identifier is read back from its text. -/
theorem parse?_text (id : Uuid)
    : parse? id.text = some id := by
  obtain ⟨digits, printed, bounds, length, -⟩ := id.exists_hexDigits_eq_map
  have count : id.hexDigits.length = 32 := by rw [printed, List.length_map, length]
  have whole : (hyphenate groups id.hexDigits).length = 36 := by
    rw [length_hyphenate, count]
    rfl
  have plain : ofHyphenated? (hyphenate groups id.hexDigits) = some id := by
    rw [ofHyphenated?, if_pos whole, unhyphenate?_hyphenate (count.ge.trans' (by decide)),
      Option.bind_some, ofDigits?_hexDigits]
  cases digits with
  | nil => cases length
  | cons d digits =>
      have first : hyphenate groups id.hexDigits
          = Nat.digitChar d :: (hyphenate groups id.hexDigits).tail := by
        rw [printed]
        rfl
      rw [List.forall_mem_cons] at bounds
      rw [first] at whole plain
      rw [text, first, parse?_of_digit bounds.1 whole, plain]

end ChargeBasis.Uuid

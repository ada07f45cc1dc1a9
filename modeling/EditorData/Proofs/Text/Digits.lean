import EditorData.Text.Basic

/-!
# Digits

What is written in base ten or sixteen is made up of digits, which stand for the number again. A
number in base ten begins with a zero only if it is zero.
-/

namespace EditorData.Text

/-- A character by a small code point has that code point. -/
theorem toNat_ofNat {code : Nat} (small : code < 0xd800) : (Char.ofNat code).toNat = code := by
  have valid : code.isValidChar := .inl small
  rw [Char.ofNat, dif_pos valid]
  rfl

/-- The digits of a number below sixteen have its value. -/
theorem hexValue?_hexDigit {value : Nat} (small : value < 16) :
    hexValue? (hexDigit value) = some value := by
  have all : ∀ value < 16, hexValue? (hexDigit value) = some value := by decide
  exact all value small

/-- A digit in base sixteen is printable. -/
theorem printable_hexDigit {value : Nat} (small : value < 16) :
    0x20 ≤ (hexDigit value).toNat ∧ (hexDigit value).toNat ≤ 0x7e := by
  have all : ∀ value < 16,
      0x20 ≤ (hexDigit value).toNat ∧ (hexDigit value).toNat ≤ 0x7e := by decide
  exact all value small

/-- A number in base ten is made up of digits. -/
theorem isDigit_of_mem_ofNat {number : Nat} {c : Char} (member : c ∈ ofNat number) :
    c.isDigit = true :=
  Nat.isDigit_of_mem_toDigits (by decide) (by decide) member

/-- A number in base ten begins with a zero only if it is zero. -/
theorem exists_ofNat_eq {number : Nat} (positive : 0 < number) :
    ∃ first rest, ofNat number = first :: rest ∧ first ≠ '0' := by
  induction number using Nat.strongRecOn with
  | ind number inductionHypothesis =>
      by_cases small : number < 10
      · have all : ∀ digit < 10, 0 < digit → Nat.digitChar digit ≠ '0' := by decide
        exact ⟨_, [], Nat.toDigits_of_lt_base small, all number small positive⟩
      · obtain ⟨first, rest, spelled, nonzero⟩ :=
          inductionHypothesis (number / 10) (by omega) (by omega)
        refine ⟨first, rest ++ [Nat.digitChar (number % 10)], ?_, nonzero⟩
        rw [ofNat, Nat.toDigits_of_base_le (by decide) (by omega), ← ofNat, spelled]
        rfl

/-- A power of ten has one digit more than its exponent. -/
theorem length_ofNat_pow (exponent : Nat) :
    (ofNat (Nat.pow 10 exponent)).length = exponent + 1 := by
  have upper : (ofNat (Nat.pow 10 exponent)).length ≤ exponent + 1 :=
    (Nat.length_toDigits_le_iff (by decide) (Nat.succ_pos exponent)).mpr
      (Nat.pow_lt_pow_succ (by decide))
  rcases Nat.eq_zero_or_pos exponent with rfl | positive
  · rfl
  · have lower : ¬ (ofNat (Nat.pow 10 exponent)).length ≤ exponent := fun few =>
      absurd ((Nat.length_toDigits_le_iff (by decide) positive).mp few) (Nat.lt_irrefl _)
    omega

end EditorData.Text

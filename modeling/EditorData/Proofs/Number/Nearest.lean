import EditorData.Number.Binary64
import Mathlib.Data.Nat.Digits.Defs

/-!
# Whole numbers near others

A natural number that is rounded to 53 significant bits stays what it is as long as it has no more
of them (`nearest_of_few`), and is otherwise found at a multiple of the last bit that is kept
(`nearest_of_many`). Below the largest numbers of the format it is off by at most one part in
`2 ^ 53` (`exists_nearestWhole?`).
-/

namespace EditorData.Number

/-- The rounded quotient is off by at most one half. -/
theorem roundedQuotient_near {denominator : Nat} (positive : 0 < denominator) (numerator : Nat) :
    2 * (roundedQuotient numerator denominator * denominator) ≤ 2 * numerator + denominator ∧
      2 * numerator ≤ 2 * (roundedQuotient numerator denominator * denominator) + denominator := by
  have whole := Nat.div_add_mod numerator denominator
  have below := Nat.mod_lt numerator positive
  rw [Nat.mul_comm] at whole
  have next := Nat.add_one_mul (numerator / denominator) denominator
  unfold roundedQuotient
  dsimp only
  split
  · omega
  · split
    · omega
    · -- a rest of exactly one half, which the quotient takes or leaves
      rcases Nat.mod_two_eq_zero_or_one (numerator / denominator) with even | odd
      · rw [even, Nat.add_zero]
        omega
      · rw [odd]
        omega

/-- A quotient without a rest is not rounded. -/
theorem roundedQuotient_one (numerator : Nat) : roundedQuotient numerator 1 = numerator := by
  simp [roundedQuotient, Nat.mod_one]

variable {number : Nat}

/-- The exponent for a whole number puts its first bit in front of 52 others. -/
theorem exponentFor_one (positive : number ≠ 0) :
    exponentFor number 1 = (Nat.log2 number : Int) - 52 := by
  have least := Nat.log2_self_le positive
  have enough : ¬ number * Nat.pow 2 (-((Nat.log2 number : Int) - 52)).toNat <
      Nat.pow 2 ((Nat.log2 number : Int) - 52).toNat * Nat.pow 2 52 := by
    rw [Nat.not_lt]
    by_cases few : Nat.log2 number ≤ 52
    · obtain ⟨more, bits⟩ := Nat.exists_eq_add_of_le few
      have up : ((Nat.log2 number : Int) - 52).toNat = 0 := by omega
      have down : (-((Nat.log2 number : Int) - 52)).toNat = more := by omega
      rw [up, down]
      calc Nat.pow 2 0 * Nat.pow 2 52 = 2 ^ Nat.log2 number * 2 ^ more := by
            rw [← Nat.pow_add, ← bits]
        _ ≤ number * Nat.pow 2 more := Nat.mul_le_mul_right _ least
    · obtain ⟨more, bits⟩ := Nat.exists_eq_add_of_le (Nat.le_of_not_le few)
      have up : ((Nat.log2 number : Int) - 52).toNat = more := by omega
      have down : (-((Nat.log2 number : Int) - 52)).toNat = 0 := by omega
      rw [up, down]
      calc Nat.pow 2 more * Nat.pow 2 52 = 2 ^ Nat.log2 number := by
            rw [bits, Nat.pow_add, Nat.mul_comm]
            rfl
        _ ≤ number * Nat.pow 2 0 := by simpa using least
  unfold exponentFor powerOfTwo
  simp only [show Nat.log2 1 = 0 from rfl, Nat.one_mul, leastExponent, Nat.cast_zero, sub_zero]
  rw [if_neg enough]
  omega

/-- A number with at most 53 bits is found exactly. -/
theorem nearest_of_few (positive : number ≠ 0) (few : Nat.log2 number ≤ 52) :
    Binary64.nearest false number 1 =
      .finite false (number * Nat.pow 2 (52 - Nat.log2 number)) ((Nat.log2 number : Int) - 52) := by
  have bits : (-((Nat.log2 number : Int) - 52)).toNat = 52 - Nat.log2 number := by omega
  have none : ((Nat.log2 number : Int) - 52).toNat = 0 := by omega
  have short : number * Nat.pow 2 (52 - Nat.log2 number) < Nat.pow 2 53 := by
    calc number * Nat.pow 2 (52 - Nat.log2 number)
        < Nat.pow 2 (Nat.log2 number + 1) * Nat.pow 2 (52 - Nat.log2 number) :=
          Nat.mul_lt_mul_of_pos_right Nat.lt_log2_self (Nat.pow_pos (by decide))
      _ = Nat.pow 2 (Nat.log2 number + 1 + (52 - Nat.log2 number)) := (Nat.pow_add ..).symm
      _ = Nat.pow 2 53 := congrArg (Nat.pow 2) (by omega)
  unfold Binary64.nearest
  simp only [exponentFor_one positive, powerOfTwo, none, bits, Nat.mul_one,
    roundedQuotient_one, show Nat.pow 2 0 = 1 from rfl, if_neg (Nat.ne_of_lt short)]
  exact if_neg (by simp only [greatestExponent]; omega)

/-- A number with more bits is found at a multiple of the last bit that is kept, or it is beyond
all numbers of the format. -/
theorem nearest_of_many {bits : Nat} (many : Nat.log2 number = 52 + bits) :
    (Binary64.nearest false number 1 = .infinite false ∧ 971 ≤ bits) ∨
      ∃ mantissa exponent : Nat,
        Binary64.nearest false number 1 = .finite false mantissa exponent ∧
          mantissa * 2 ^ exponent = roundedQuotient number (2 ^ bits) * 2 ^ bits := by
  have positive : number ≠ 0 := by
    rintro rfl
    rw [Nat.log2_zero] at many
    omega
  have exponent : exponentFor number 1 = bits := by
    rw [exponentFor_one positive]
    omega
  have up : ((bits : Nat) : Int).toNat = bits := by omega
  have down : (-(bits : Int)).toNat = 0 := by omega
  unfold Binary64.nearest
  simp only [exponent, powerOfTwo, up, down, Nat.mul_one, Nat.one_mul,
    show Nat.pow 2 0 = 1 from rfl, show Nat.pow 2 bits = 2 ^ bits from rfl,
    Binary64.bounded, greatestExponent]
  by_cases carries : roundedQuotient number (2 ^ bits) = Nat.pow 2 53
  · rw [if_pos carries]
    split
    · exact .inl ⟨rfl, by omega⟩
    · refine .inr ⟨Nat.pow 2 52, bits + 1, rfl, ?_⟩
      rw [carries, Nat.pow_succ, Nat.mul_comm (2 ^ bits), ← Nat.mul_assoc]
  · rw [if_neg carries]
    split
    · exact .inl ⟨rfl, by omega⟩
    · exact .inr ⟨_, bits, rfl, rfl⟩

/-- A whole number that is short enough is rounded as a fraction is. -/
theorem ofDecimal_whole (positive : number ≠ 0)
    (short : (Nat.toDigits 10 number).length ≤ 400) :
    Binary64.ofDecimal false number 0 = .nearest false number 1 := by
  unfold Binary64.ofDecimal
  rw [if_neg positive]
  dsimp only
  rw [if_neg (by omega), if_neg (by omega)]
  simp

/-- A natural number with at most 1023 bits is rounded to another one, by at most one part in
`2 ^ 53`. -/
theorem exists_nearestWhole? (bounded : Nat.log2 number < 1023) :
    ∃ whole, nearestWhole? number = some whole ∧
      2 ^ 53 * whole ≤ (2 ^ 53 + 1) * number ∧ (2 ^ 53 - 1) * number ≤ 2 ^ 53 * whole := by
  by_cases zero : number = 0
  · subst zero
    exact ⟨0, by simp [nearestWhole?, Binary64.ofDecimal], by omega⟩
  have inEights (count : Nat) : 2 ^ (3 * count) ≤ 10 ^ count := by
    rw [Nat.pow_mul]
    exact Nat.pow_le_pow_left (by decide) count
  have short : (Nat.toDigits 10 number).length ≤ 400 := by
    obtain ⟨count, enough, few⟩ : ∃ count, Nat.log2 number < 3 * count ∧ count ≤ 400 :=
      ⟨341, by omega, by decide⟩
    have below : number < 10 ^ count :=
      calc number < 2 ^ (Nat.log2 number + 1) := Nat.lt_log2_self
        _ ≤ 2 ^ (3 * count) := Nat.pow_le_pow_right (by decide) (by omega)
        _ ≤ 10 ^ count := inEights count
    exact (Nat.toDigits_length 10 number count (by omega) below).trans few
  unfold nearestWhole?
  rw [ofDecimal_whole zero short]
  by_cases few : Nat.log2 number ≤ 52
  · rw [nearest_of_few zero few]
    have none : ((Nat.log2 number : Int) - 52).toNat = 0 := by omega
    exact ⟨number, by simp [powerOfTwo, none], by omega⟩
  · obtain ⟨bits, many⟩ := Nat.exists_eq_add_of_le (Nat.le_of_not_le few)
    have least := Nat.log2_self_le zero
    rcases nearest_of_many many with ⟨-, beyond⟩ | ⟨mantissa, exponent, finite, same⟩
    · omega
    · rw [finite]
      refine ⟨mantissa * 2 ^ exponent, by simp [powerOfTwo], ?_⟩
      rw [many, Nat.pow_add] at least
      have near := roundedQuotient_near (Nat.pow_pos (by decide) : 0 < 2 ^ bits) number
      rw [← same] at near
      generalize 2 ^ bits = unit at least near
      generalize mantissa * 2 ^ exponent = whole at near
      omega

end EditorData.Number

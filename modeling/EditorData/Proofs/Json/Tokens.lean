import EditorData.Json.Reader
import EditorData.Proofs.Json.Strings

/-!
# Printed tokens

A printed value that is no array and no object is read as one token with that value. A string ends
with its quote and a word with its last letter; an integer ends where the text does not go on with
a number (`EndsNumber`).
-/

namespace EditorData.Json

/-- Whether a text does not go on with the digits, the fraction or the exponent of a number. -/
def EndsNumber (rest : Text) : Prop :=
  ∀ c ∈ rest.head?, isDecimal c = false ∧ c ≠ '.' ∧ c ≠ 'e' ∧ c ≠ 'E'

/-- A string is read as what it is. -/
theorem splitToken?_string {points : Codes} (joined : isJoined points = true) (rest : Text) :
    splitToken? (stringText points ++ rest) = some (.scalar (.string points), rest) := by
  have opened : stringText points ++ rest =
      '"' :: (points.flatMap escapedPoint ++ '"' :: rest) := by
    simp [stringText]
  rw [opened]
  show (splitString? _).map _ = _
  rw [splitString?_escaped, Option.map_some]
  dsimp only
  rw [ofUnits_codeUnits joined]

/-- Decimal digits have the value of the number that they write. -/
theorem decimalValue_ofNat (number : Nat) : decimalValue (Text.ofNat number) = number := by
  have same : (fun value (c : Char) => value * 10 + (c.toNat - 48)) =
      fun value c => 10 * value + (c.toNat - '0'.toNat) := by
    funext value c
    rw [Nat.mul_comm]
    rfl
  rw [decimalValue, same]
  exact Nat.ofDigitChars_toDigits (by decide) (by decide)

section Numbers

variable {rest : Text}

/-- Digits end where a number ends. -/
theorem EndsNumber.dropWhile (ends : EndsNumber rest) : rest.dropWhile isDecimal = rest := by
  cases rest with
  | nil => rfl
  | cons c rest => exact List.dropWhile_cons_of_neg (by simp [(ends c rfl).1])

/-- Nothing more is taken for digits where a number ends. -/
theorem EndsNumber.takeWhile (ends : EndsNumber rest) : rest.takeWhile isDecimal = [] := by
  cases rest with
  | nil => rfl
  | cons c rest => exact List.takeWhile_cons_of_neg (by simp [(ends c rfl).1])

/-- There is no fraction where a number ends. -/
theorem EndsNumber.splitFraction (ends : EndsNumber rest) : splitFraction rest = ([], rest) := by
  unfold Json.splitFraction
  split
  · exact absurd rfl (ends '.' rfl).2.1
  · rfl

/-- There is no exponent where a number ends. -/
theorem EndsNumber.splitExponent (ends : EndsNumber rest) : splitExponent rest = (none, rest) := by
  cases rest with
  | nil => rfl
  | cons c rest => exact if_neg (not_or.mpr (ends c rfl).2.2)

/-- The digits of a number are its integer part. -/
theorem splitInteger?_ofNat (ends : EndsNumber rest) (number : Nat) :
    splitInteger? (Text.ofNat number ++ rest) = some (Text.ofNat number, rest) := by
  have digits : ∀ c ∈ Text.ofNat number, isDecimal c = true :=
    fun c member => Text.isDigit_of_mem_ofNat member
  rcases Nat.eq_zero_or_pos number with rfl | positive
  · rfl
  · obtain ⟨first, others, spelled, nonzero⟩ := Text.exists_ofNat_eq positive
    have decimal : isDecimal first = true := digits first (spelled ▸ List.mem_cons_self)
    have taken : (Text.ofNat number ++ rest).takeWhile isDecimal = _ :=
      List.takeWhile_append_of_pos digits
    have left : (Text.ofNat number ++ rest).dropWhile isDecimal = _ :=
      List.dropWhile_append_of_pos digits
    rw [ends.takeWhile, List.append_nil] at taken
    rw [ends.dropWhile] at left
    rw [spelled, List.cons_append] at taken left ⊢
    rw [splitInteger?.eq_2 first _ (fun same => nonzero same), if_pos decimal, taken, left]

/-- The digits of a number are read as the number, with a sign, unless they are too many. -/
theorem splitNumber?_ofNat (ends : EndsNumber rest) (negative : Bool) (number : Nat) :
    splitNumber? negative (Text.ofNat number ++ rest) =
      some (if Text.digitLimit < (Text.ofNat number).length then
          .longInteger (Text.ofNat number).length
        else .scalar (.integer (if negative then -(number : Int) else number)), rest) := by
  rw [splitNumber?, splitInteger?_ofNat ends, Option.map_some]
  simp only [ends.splitFraction, ends.splitExponent, List.isEmpty_nil, Option.isNone_none,
    Bool.and_self, if_true, decimalValue_ofNat]
  split <;> rfl

/-- A digit is not the first character of another token. -/
theorem splitToken?_of_isDigit {c : Char} (digit : c.isDigit = true) (text : Text) :
    splitToken? (c :: text) = splitNumber? false (c :: text) ∧
      splitToken? ('-' :: c :: text) = splitNumber? true (c :: text) := by
  have differs (d : Char) (other : d.isDigit = false) : c ≠ d := by
    rintro rfl
    rw [digit] at other
    cases other
  have noWord : splitWord? (c :: text) = none := by
    simp [splitWord?, words, Text.after?, differs 'n' rfl, differs 't' rfl, differs 'f' rfl,
      differs 'N' rfl, differs 'I' rfl, differs '-' rfl]
  have noInfinity : splitWord? ('-' :: c :: text) = none := by
    simp [splitWord?, words, Text.after?, differs 'I' rfl]
  constructor
  · rw [splitToken?.eq_9 (c :: text) (fun _ same => differs '[' rfl (List.cons.inj same).1)
      (fun _ same => differs ']' rfl (List.cons.inj same).1)
      (fun _ same => differs '\x7b' rfl (List.cons.inj same).1)
      (fun _ same => differs '\x7d' rfl (List.cons.inj same).1)
      (fun _ same => differs ',' rfl (List.cons.inj same).1)
      (fun _ same => differs ':' rfl (List.cons.inj same).1)
      (fun _ same => differs '"' rfl (List.cons.inj same).1)
      (fun _ same => differs '-' rfl (List.cons.inj same).1), noWord]
  · rw [splitToken?.eq_8, noInfinity]

/-- An integer is read as it is, unless it has too many digits. -/
theorem splitToken?_ofInt (ends : EndsNumber rest) (value : Int) :
    splitToken? (Text.ofInt value ++ rest) =
      some (if Text.digitLimit < (Text.ofNat value.natAbs).length then
          .longInteger (Text.ofNat value.natAbs).length
        else .scalar (.integer value), rest) := by
  have firstDigit (number : Nat) : ∃ c others, Text.ofNat number = c :: others ∧
      c.isDigit = true := by
    cases spelled : Text.ofNat number with
    | nil => exact absurd spelled Nat.toDigits_ne_nil
    | cons c others =>
        exact ⟨c, others, rfl, Text.isDigit_of_mem_ofNat (spelled ▸ List.mem_cons_self)⟩
  cases value with
  | ofNat number =>
      obtain ⟨c, others, spelled, digit⟩ := firstDigit number
      have read := splitNumber?_ofNat ends false number
      rw [spelled, List.cons_append, ← (splitToken?_of_isDigit digit _).1] at read
      show splitToken? (Text.ofNat number ++ rest) = _
      rw [Int.natAbs_ofNat', spelled]
      exact read
  | negSucc number =>
      obtain ⟨c, others, spelled, digit⟩ := firstDigit (number + 1)
      have read := splitNumber?_ofNat ends true (number + 1)
      rw [spelled, List.cons_append, ← (splitToken?_of_isDigit digit _).2] at read
      show splitToken? ('-' :: Text.ofNat (number + 1) ++ rest) = _
      rw [Int.natAbs_negSucc, spelled]
      exact read

end Numbers

end EditorData.Json

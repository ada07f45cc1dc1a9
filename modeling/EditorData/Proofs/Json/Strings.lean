import EditorData.Json.Printer
import EditorData.Json.Token
import EditorData.Proofs.Text.Digits

/-!
# Strings of JSON

A string is written point by point, each as the escapes of its code units or as it is. What is
written holds no quote and no backslash but those of escapes, so a reader finds the code units of
the string and its end (`splitString?_escaped`), and the code units make up the string again
(`ofUnits_codeUnits`), unless two surrogates that stand alone would make a pair. No string that has
been read has such neighbours (`isJoined_ofUnits`), and no text.
-/

namespace EditorData.Json

/-- The code units of a character: its code point, or a pair of surrogates where that is too
large. -/
def codeUnits (c : Char) : List Nat :=
  if c.toNat < 0x10000 then [c.toNat]
  else [0xd800 + (c.toNat - 0x10000) / 0x400, 0xdc00 + (c.toNat - 0x10000) % 0x400]

/-- The code units of a code point: those of a character, or the surrogate itself. -/
def pointUnits : CodePoint -> List Nat
  | .char c => codeUnits c
  | .surrogate index => [0xd800 + index]

/-- Whether no two surrogates in a row would make a pair. -/
def isJoined : Codes -> Bool
  | first :: second :: rest => !(first.isHigh && second.isLow) && isJoined (second :: rest)
  | _ => true

/-- There are no surrogates in a text. -/
theorem isJoined_codes (text : Text) : isJoined (Text.codes text) = true := by
  match text with
  | [] => rfl
  | [_] => rfl
  | _ :: d :: text => exact isJoined_codes (d :: text)

/-- A code point is no surrogate. -/
theorem toNat_lt_or_lt (c : Char) : c.toNat < 0xd800 ∨ 0xdfff < c.toNat ∧ c.toNat < 0x110000 :=
  c.valid

section Units

variable {unit : Nat}

/-- A code unit that is no surrogate is a character. -/
theorem unit_of_char (alone : unit < 0xd800 ∨ 0xdfff < unit) :
    ofUnits.unit unit = .char (Char.ofNat unit) :=
  dif_neg (by omega)

/-- The code unit of a surrogate is the surrogate. -/
theorem unit_of_surrogate (index : Fin 0x800) :
    ofUnits.unit (0xd800 + index) = .surrogate index := by
  simp only [ofUnits.unit, Nat.add_sub_cancel_left]
  exact dif_pos (by omega)

/-- A code unit gives a surrogate of the first half only if it is one. -/
theorem isHigh_unit (high : (ofUnits.unit unit).isHigh = true) :
    0xd800 ≤ unit ∧ unit < 0xdc00 := by
  unfold ofUnits.unit at high
  split at high
  · rw [CodePoint.isHigh_surrogate_iff] at high
    dsimp only at high
    omega
  · cases high

/-- A code unit gives a surrogate of the second half only if it is one. -/
theorem isLow_unit (low : (ofUnits.unit unit).isLow = true) : 0xdc00 ≤ unit ∧ unit < 0xe000 := by
  unfold ofUnits.unit at low
  split at low
  · rw [CodePoint.isLow_surrogate_iff] at low
    dsimp only at low
    omega
  · cases low

/-- A code unit is a code point of its own, unless it begins a pair. -/
theorem ofUnits_cons {units : List Nat}
    (alone : (ofUnits.unit unit).isHigh = true →
      ∀ next ∈ units.head?, next < 0xdc00 ∨ 0xe000 ≤ next) :
    ofUnits (unit :: units) = ofUnits.unit unit :: ofUnits units := by
  cases units with
  | nil => rfl
  | cons next units =>
      rw [ofUnits, if_neg]
      rintro ⟨lower, upper, low⟩
      have high : (ofUnits.unit unit).isHigh = true := by
        rw [ofUnits.unit, dif_pos (by omega)]
        exact CodePoint.isHigh_surrogate_iff.mpr (show unit - 0xd800 < 0x400 by omega)
      have := alone high next rfl
      omega

/-- A pair of surrogates is one character. -/
theorem ofUnits_pair {offset : Nat} (small : offset < 0x100000) (units : List Nat) :
    ofUnits ((0xd800 + offset / 0x400) :: (0xdc00 + offset % 0x400) :: units) =
      .char (Char.ofNat (0x10000 + offset)) :: ofUnits units := by
  have code : 0x10000 + (0xd800 + offset / 0x400 - 0xd800) * 0x400 +
      (0xdc00 + offset % 0x400 - 0xdc00) = 0x10000 + offset := by omega
  rw [ofUnits, if_pos (by omega), code]

/-- A string that has been read begins with a surrogate of the second half only if its code units
do. -/
theorem isLow_head_ofUnits {units : List Nat} {point : CodePoint}
    (first : (ofUnits units).head? = some point) (low : point.isLow = true) :
    ∃ next, units.head? = some next ∧ 0xdc00 ≤ next ∧ next < 0xe000 := by
  unfold ofUnits at first
  split at first
  · split at first
    · cases first
      cases low
    · cases first
      exact ⟨_, rfl, isLow_unit low⟩
  · cases first
    exact ⟨_, rfl, isLow_unit low⟩
  · cases first

end Units

/-- No two surrogates of a string that has been read make a pair. -/
theorem isJoined_ofUnits (units : List Nat) : isJoined (ofUnits units) = true := by
  have behind {point : CodePoint} {points : Codes} (joined : isJoined points = true)
      (apart : point.isHigh = true → ∀ next ∈ points.head?, next.isLow = false) :
      isJoined (point :: points) = true := by
    cases points with
    | nil => rfl
    | cons next points =>
        rw [isJoined, joined, Bool.and_true]
        cases high : point.isHigh with
        | false => rfl
        | true => rw [apart high next rfl]; rfl
  fun_induction ofUnits units with
  | case1 high low rest pair inductionHypothesis => exact behind inductionHypothesis nofun
  | case2 unit next rest pair inductionHypothesis =>
      refine behind inductionHypothesis fun high point first => ?_
      cases low : point.isLow with
      | false => rfl
      | true =>
          obtain ⟨_, ⟨⟩, second⟩ := isLow_head_ofUnits first low
          exact absurd ⟨(isHigh_unit high).1, (isHigh_unit high).2, second⟩ pair
  | case3 => rfl
  | case4 => rfl

/-- The code units of a character make up the character again. -/
theorem ofUnits_codeUnits_append (c : Char) (units : List Nat) :
    ofUnits (codeUnits c ++ units) = .char c :: ofUnits units := by
  have valid := toNat_lt_or_lt c
  unfold codeUnits
  split
  · have alone := unit_of_char (show c.toNat < 0xd800 ∨ 0xdfff < c.toNat by omega)
    rw [List.singleton_append, ofUnits_cons (by rw [alone]; exact nofun), alone, Char.ofNat_toNat]
  · have whole : 0x10000 + (c.toNat - 0x10000) = c.toNat := by omega
    rw [List.cons_append, List.singleton_append, ofUnits_pair (by omega), whole, Char.ofNat_toNat]

/-- The first code unit of a character is no surrogate of the second half. -/
theorem head_codeUnits (c : Char) (units : List Nat) :
    ∀ next ∈ (codeUnits c ++ units).head?, next < 0xdc00 ∨ 0xe000 ≤ next := by
  have valid := toNat_lt_or_lt c
  unfold codeUnits
  split <;> rintro next ⟨⟩ <;> omega

/-- The code units of a string make up the string again. -/
theorem ofUnits_codeUnits {points : Codes} (joined : isJoined points = true) :
    ofUnits (points.flatMap pointUnits) = points := by
  induction points with
  | nil => rfl
  | cons point points inductionHypothesis =>
      have later : isJoined points = true := by
        cases points with
        | nil => rfl
        | cons next points => exact (Bool.and_eq_true_iff.mp joined).2
      rw [List.flatMap_cons]
      cases point with
      | char c => rw [pointUnits, ofUnits_codeUnits_append, inductionHypothesis later]
      | surrogate index =>
          have alone := unit_of_surrogate index
          rw [pointUnits, List.singleton_append, ofUnits_cons ?_, alone, inductionHypothesis later]
          rw [alone]
          intro high
          cases points with
          | nil => exact nofun
          | cons next points =>
              have apart := (Bool.and_eq_true_iff.mp joined).1
              rw [high, Bool.true_and, Bool.not_eq_true'] at apart
              cases next with
              | char c => exact head_codeUnits c _
              | surrogate other =>
                  rw [← Bool.not_eq_true, CodePoint.isLow_surrogate_iff] at apart
                  rintro unit ⟨⟩
                  omega

/-- A code unit as an escape is read by its four digits. -/
theorem splitString?_unitEscape {unit : Nat} (small : unit < 0x10000) (rest : Text) :
    splitString? (unitEscape unit ++ rest) =
      (splitString? rest).map (Prod.map (unit :: ·) id) := by
  have digits : Text.hex 4 unit = [Text.hexDigit (unit / 16 / 16 / 16 % 16),
      Text.hexDigit (unit / 16 / 16 % 16), Text.hexDigit (unit / 16 % 16),
      Text.hexDigit (unit % 16)] := rfl
  have value (number : Nat) := Text.hexValue?_hexDigit (Nat.mod_lt number (show 0 < 16 by decide))
  have sum : ((unit / 16 / 16 / 16 % 16 * 16 + unit / 16 / 16 % 16) * 16 + unit / 16 % 16) * 16 +
      unit % 16 = unit := by omega
  rw [unitEscape, digits]
  simp only [List.cons_append, List.nil_append, splitString?, unit?, value, sum]

/-- A character that stands for itself is read as it is. -/
theorem splitString?_plain {c : Char} (visible : 0x20 ≤ c.toNat) (noQuote : c ≠ '"')
    (noBackslash : c ≠ '\\') (rest : Text) :
    splitString? (c :: rest) = (splitString? rest).map (Prod.map (c.toNat :: ·) id) := by
  rw [splitString?.eq_5 c rest noQuote (fun _ _ _ _ _ same => absurd same noBackslash)
    (fun _ _ same => absurd same noBackslash)]
  exact if_neg (by simp [noBackslash, visible])

/-- What is written for a character is read as its code units. -/
theorem splitString?_escapedChar (c : Char) (rest : Text) :
    splitString? (escapedChar c ++ rest) =
      (splitString? rest).map (Prod.map (codeUnits c ++ ·) id) := by
  have short {code : Nat} (same : c.toNat = code) (small : code < 0x10000) :
      codeUnits c = [code] := by
    rw [codeUnits, same, if_pos small]
  have plane := toNat_lt_or_lt c
  unfold escapedChar
  dsimp only
  split
  · next same => subst same; rfl
  split
  · next same => subst same; rfl
  split
  · next same => subst same; rfl
  split
  · next same => subst same; rfl
  split
  · next same => subst same; rfl
  split
  · next same => rw [short same (by decide)]; rfl
  split
  · next same => rw [short same (by decide)]; rfl
  split
  · next noQuote noBackslash _ _ _ _ _ visible =>
      rw [short rfl (by omega)]
      exact splitString?_plain visible.1 noQuote noBackslash rest
  split
  · next small =>
      rw [short rfl small]
      exact splitString?_unitEscape small rest
  · next large =>
      rw [codeUnits, if_neg large, List.append_assoc, splitString?_unitEscape (by omega),
        splitString?_unitEscape (by omega), Option.map_map, Prod.map_comp_map]
      rfl

/-- What is written for a code point is read as its code units. -/
theorem splitString?_escapedPoint (point : CodePoint) (rest : Text) :
    splitString? (escapedPoint point ++ rest) =
      (splitString? rest).map (Prod.map (pointUnits point ++ ·) id) := by
  cases point with
  | char c => exact splitString?_escapedChar c rest
  | surrogate index => exact splitString?_unitEscape (by omega) rest

/-- What is written for a string is read as its code units, up to the quote behind it. -/
theorem splitString?_escaped (points : Codes) (rest : Text) :
    splitString? (points.flatMap escapedPoint ++ '"' :: rest) =
      some (points.flatMap pointUnits, rest) := by
  induction points with
  | nil => rfl
  | cons point points inductionHypothesis =>
      rw [List.flatMap_cons, List.append_assoc, splitString?_escapedPoint, inductionHypothesis]
      rfl

end EditorData.Json

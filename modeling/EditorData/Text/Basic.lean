/-!
# Text

A text is a list of characters, so every offset and every length of the library counts
characters. This module holds the operations that the rest of the library composes:
recognising a text at the front of another, cutting at the first occurrence of a marker,
trimming, and taking a text apart into lines and putting parts together again. Each comes
with the equation that says which characters it keeps.
-/

namespace EditorData

/-- A text, one character after the other. -/
abbrev Text := List Char

namespace Text

/-- What follows `lead` when the text starts with it. -/
def after? : (lead text : Text) -> Option Text
  | [], text => some text
  | _ :: _, [] => none
  | expected :: lead, c :: text => if c = expected then after? lead text else none

/-- A text follows itself with whatever was put behind it. -/
@[simp] theorem after?_append (lead rest : Text) : after? lead (lead ++ rest) = some rest := by
  induction lead with
  | nil => rfl
  | cons c lead inductionHypothesis => simp [after?, inductionHypothesis]

/-- The lead and what follows it make up the text. -/
theorem eq_append_of_after? {lead text rest : Text} (found : after? lead text = some rest) :
    text = lead ++ rest := by
  induction lead generalizing text with
  | nil => simpa [after?] using found
  | cons expected lead inductionHypothesis =>
      cases text with
      | nil => simp [after?] at found
      | cons c text =>
          by_cases same : c = expected
          · simp only [after?, same, if_true] at found
            simp [same, inductionHypothesis found]
          · simp [after?, same] at found

/-- Recognition is exactly a decomposition of the text. -/
theorem after?_eq_some_iff {lead text rest : Text} :
    after? lead text = some rest ↔ text = lead ++ rest :=
  ⟨eq_append_of_after?, fun split => split ▸ after?_append lead rest⟩

/-- Whether the text starts with `lead`. -/
def startsWith (lead text : Text) : Bool :=
  (after? lead text).isSome

/-- Whether the text ends with `tail`. -/
def endsWith (tail text : Text) : Bool :=
  startsWith tail.reverse text.reverse

/-- The text before the first occurrence of `marker` and the text behind that occurrence. -/
def cut? (marker : Text) : Text -> Option (Text × Text)
  | [] => (after? marker []).map fun rest => ([], rest)
  | c :: text =>
      match after? marker (c :: text) with
      | some rest => some ([], rest)
      | none => (cut? marker text).map fun (before, rest) => (c :: before, rest)

/-- The two sides of a cut surround one occurrence of the marker. -/
theorem eq_append_of_cut? {marker text before rest : Text}
    (found : cut? marker text = some (before, rest)) : text = before ++ marker ++ rest := by
  induction text generalizing before with
  | nil =>
      obtain ⟨rest', hit, pair⟩ := Option.map_eq_some_iff.1 found
      obtain ⟨rfl, rfl⟩ := Prod.mk.inj pair
      simpa using eq_append_of_after? hit
  | cons c text inductionHypothesis =>
      unfold cut? at found
      split at found
      · next rest' hit =>
          obtain ⟨rfl, rfl⟩ := Prod.mk.inj (Option.some.inj found)
          simpa using eq_append_of_after? hit
      · obtain ⟨⟨before', rest'⟩, hit, pair⟩ := Option.map_eq_some_iff.1 found
        obtain ⟨rfl, rfl⟩ := Prod.mk.inj pair
        simp [inductionHypothesis hit]

/-- Both sides of a cut are no longer than the text, and shorter if the marker is not empty. -/
theorem length_of_cut? {marker text before rest : Text}
    (found : cut? marker text = some (before, rest)) :
    before.length + marker.length + rest.length = text.length := by
  rw [eq_append_of_cut? found]
  simp only [List.length_append]

section Trimming

variable {Letter : Type}

/-- The text without the leading characters that satisfy `blank`. -/
def trimStart (blank : Letter -> Bool) (text : List Letter) : List Letter :=
  text.dropWhile blank

/-- The text without the trailing characters that satisfy `blank`. -/
def trimEnd (blank : Letter -> Bool) : List Letter -> List Letter
  | [] => []
  | c :: text =>
      match trimEnd blank text with
      | [] => if blank c then [] else [c]
      | kept => c :: kept

/-- The text without the characters at either end that satisfy `blank`. -/
def trim (blank : Letter -> Bool) (text : List Letter) : List Letter :=
  trimEnd blank (trimStart blank text)

end Trimming

/-- The parts of a text between its separators, of which there is at least one. -/
def parts (separator : Char) : Text -> List Text
  | [] => [[]]
  | c :: text =>
      if c = separator then [] :: parts separator text
      else
        match parts separator text with
        | [] => [[c]]
        | part :: others => (c :: part) :: others

/-- The lines of a text: the parts between its line feeds. -/
def lines (text : Text) : List Text :=
  parts '\n' text

/-- The parts one after the other with the separator between neighbours. -/
def joined (separator : Text) : List Text -> Text
  | [] => []
  | [part] => part
  | part :: next :: rest => part ++ separator ++ joined separator (next :: rest)

/-- A text has a part. -/
theorem parts_ne_nil (separator : Char) (text : Text) : parts separator text ≠ [] := by
  cases text with
  | nil => simp [parts]
  | cons c text =>
      by_cases same : c = separator
      · simp [parts, same]
      · simp only [parts, same, if_false]
        split <;> simp

/-- The parts with separators between them are the text. -/
theorem joined_parts (separator : Char) (text : Text) :
    joined [separator] (parts separator text) = text := by
  induction text with
  | nil => rfl
  | cons c text inductionHypothesis =>
      cases found : parts separator text with
      | nil => exact absurd found (parts_ne_nil separator text)
      | cons part others =>
          rw [found] at inductionHypothesis
          by_cases same : c = separator
          · subst same
            simp [parts, found, joined, inductionHypothesis]
          · cases others with
            | nil =>
                simp [parts, same, found, joined] at inductionHypothesis ⊢
                exact inductionHypothesis
            | cons next rest =>
                simp [parts, same, found, joined] at inductionHypothesis ⊢
                exact inductionHypothesis

/-- The lines with line feeds between them are the text. -/
theorem joined_lines (text : Text) : joined ['\n'] (lines text) = text :=
  joined_parts '\n' text

/-- The text without its line feeds. -/
def withoutLineFeeds (text : Text) : Text :=
  text.filter (· != '\n')

/-- The text with every carriage return, alone or before a line feed, read as a line feed. -/
def normalizeNewlines : Text -> Text
  | [] => []
  | '\r' :: '\n' :: text => '\n' :: normalizeNewlines text
  | '\r' :: text => '\n' :: normalizeNewlines text
  | c :: text => c :: normalizeNewlines text

/-- The decimal digits of a number. -/
def ofNat (number : Nat) : Text :=
  Nat.toDigits 10 number

/-- The decimal digits of a number with a minus sign in front when it is negative. -/
def ofInt : Int -> Text
  | .ofNat number => ofNat number
  | .negSucc number => '-' :: ofNat (number + 1)

/-- The character of a digit in base sixteen. -/
def hexDigit (value : Nat) : Char :=
  if value < 10 then Char.ofNat (48 + value) else Char.ofNat (87 + value)

/-- The last `width` digits of a number in base sixteen, in lower case. -/
def hex : (width number : Nat) -> Text
  | 0, _ => []
  | width + 1, number => hex width (number / 16) ++ [hexDigit (number % 16)]

/-- The value of a digit in base sixteen of either case. -/
def hexValue? (c : Char) : Option Nat :=
  if '0' ≤ c ∧ c ≤ '9' then some (c.toNat - 48)
  else if 'a' ≤ c ∧ c ≤ 'f' then some (c.toNat - 87)
  else if 'A' ≤ c ∧ c ≤ 'F' then some (c.toNat - 55)
  else none

end Text

end EditorData

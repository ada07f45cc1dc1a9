import EditorData.Proofs.Markup.Joining
import EditorData.Proofs.Text.Lines

/-!
# Where tags open

A tag opens where an angle bracket stands directly in front of a letter (`opensTag`). No other
text takes part in it, so the characters that separate lines and words decide it for each line
and each word on its own.
-/

namespace EditorData.Markup

/-- Whether a tag opens somewhere in the text. -/
def opensTag : Text -> Bool
  | [] => false
  | c :: rest => (c == '<' && rest.head?.any Text.isLetter) || opensTag rest

/-- There is a name in front of a text exactly if the text begins with a letter. -/
theorem splitName?_eq_none_iff {text : Text} :
    splitName? text = none ↔ text.head?.any Text.isLetter = false := by
  cases text with
  | nil => simp [splitName?]
  | cons c text => simp [splitName?]

/-- A text has no tag exactly if none opens in it. -/
theorem splitTag_eq_iff {text : Text} : splitTag text = (text, none) ↔ opensTag text = false := by
  induction text with
  | nil => simp [splitTag, opensTag]
  | cons c text inductionHypothesis =>
      rw [splitTag, opensTag, Bool.or_eq_false_iff, ← inductionHypothesis]
      by_cases bracket : c = '<'
      · subst bracket
        rw [if_pos rfl, beq_self_eq_true, Bool.true_and, ← splitName?_eq_none_iff]
        cases splitName? text with
        | none => simp [Prod.ext_iff]
        | some named => simp
      · rw [if_neg bracket]
        simp [bracket, Prod.ext_iff]

/-- A tag opens exactly where an angle bracket stands directly in front of a letter. -/
theorem opensTag_iff {text : Text} :
    opensTag text = true ↔ ∃ c, Text.isLetter c = true ∧ ['<', c] <:+: text := by
  induction text with
  | nil => simp [opensTag]
  | cons d text inductionHypothesis =>
      simp only [opensTag, Bool.or_eq_true, inductionHypothesis, List.infix_cons_iff, and_or_left,
        exists_or]
      refine or_congr ?_ Iff.rfl
      rw [Bool.and_eq_true, beq_iff_eq]
      cases text with
      | nil =>
          constructor
          · rintro ⟨-, letter⟩
            cases letter
          · rintro ⟨c, -, front⟩
            cases List.prefix_nil.1 ((List.cons_prefix_cons.1 front).2)
      | cons e text =>
          constructor
          · rintro ⟨rfl, letter⟩
            exact ⟨e, letter, ⟨text, rfl⟩⟩
          · rintro ⟨c, letter, front⟩
            obtain ⟨rfl, second⟩ := List.cons_prefix_cons.1 front
            obtain ⟨rfl, -⟩ := List.cons_prefix_cons.1 second
            exact ⟨rfl, letter⟩

/-- Without an angle bracket no tag opens. -/
theorem opensTag_eq_false {text : Text} (absent : '<' ∉ text) : opensTag text = false := by
  induction text with
  | nil => rfl
  | cons c text inductionHypothesis =>
      obtain ⟨differs, later⟩ := not_or.1 fun either => absent (List.mem_cons.2 either)
      rw [opensTag, inductionHypothesis later, beq_eq_false_iff_ne.2 (Ne.symm differs)]
      rfl

section Separators

variable {c : Char}

/-- Behind another character than an angle bracket the same tags open. -/
theorem opensTag_cons (differs : c ≠ '<') (text : Text) : opensTag (c :: text) = opensTag text := by
  simp [opensTag, differs]

/-- A tag opens on one of the two sides of a character that is no part of one. -/
theorem opensTag_append_cons (differs : c ≠ '<') (apart : Text.isLetter c = false)
    (left right : Text) :
    opensTag (left ++ c :: right) = (opensTag left || opensTag right) := by
  induction left with
  | nil => exact opensTag_cons differs right
  | cons d left inductionHypothesis =>
      have border : (left ++ c :: right).head?.any Text.isLetter =
          left.head?.any Text.isLetter := by
        cases left with
        | nil => simpa using apart
        | cons e left => rfl
      rw [List.cons_append, opensTag, opensTag, border, inductionHypothesis, Bool.or_assoc]

/-- Trimming other characters than angle brackets and letters leaves every tag. -/
theorem opensTag_trim {blank : Char -> Bool}
    (apart : ∀ c, blank c = true -> c ≠ '<' ∧ Text.isLetter c = false) (text : Text) :
    opensTag (Text.trim blank text) = opensTag text := by
  have front : opensTag (Text.trimStart blank text) = opensTag text := by
    induction text with
    | nil => rfl
    | cons c text inductionHypothesis =>
        rw [Text.trimStart, List.dropWhile_cons]
        split
        · next trimmed =>
            rw [opensTag_cons (apart c trimmed).1]
            exact inductionHypothesis
        · rfl
  rw [Text.trim, ← front]
  obtain ⟨trailing, whole, blanks⟩ := Text.exists_trimmedOff blank (Text.trimStart blank text)
  have untagged : opensTag trailing = false :=
    opensTag_eq_false fun member => (apart '<' (blanks '<' member)).1 rfl
  have same : opensTag (Text.trimEnd blank (Text.trimStart blank text)) =
      opensTag (Text.trimEnd blank (Text.trimStart blank text) ++ trailing) := by
    cases trailing with
    | nil => rw [List.append_nil]
    | cons c trailing =>
        obtain ⟨differs, noLetter⟩ := apart c (blanks c List.mem_cons_self)
        rw [opensTag_cons differs] at untagged
        rw [opensTag_append_cons differs noLetter, untagged, Bool.or_false]
  rwa [← whole] at same

/-- A tag opens in lines one behind the other exactly if it opens in one of them. -/
theorem opensTag_joined (lines : List Text) :
    opensTag (Text.joined ['\n'] lines) = lines.any opensTag := by
  induction lines with
  | nil => rfl
  | cons line rest inductionHypothesis =>
      cases rest with
      | nil => exact (Bool.or_false _).symm
      | cons next rest =>
          rw [Text.joined, List.append_assoc, List.singleton_append,
            opensTag_append_cons (by decide) (by decide), inductionHypothesis,
            List.any_cons, List.any_cons, List.any_cons]

/-- A tag opens in a text exactly if it opens in one of its lines. -/
theorem any_opensTag_lines (text : Text) : (Text.lines text).any opensTag = opensTag text := by
  rw [← opensTag_joined, Text.joined_lines]

end Separators

end EditorData.Markup

import EditorData.Markdown.Output

/-!
# What has been written

The fragments of an output stand for one text. None of them is empty (`Output.Holds`), so
the last ones decide how that text ends, and the operations on fragments are operations on
the text: `endLine` and `leaveBlankLine`.
-/

namespace EditorData

namespace Text

/-- A text starts with another one if that is the front of it. -/
theorem startsWith_iff {lead text : Text} : startsWith lead text = true ↔ lead <+: text := by
  rw [startsWith, Option.isSome_iff_exists]
  constructor
  · rintro ⟨rest, found⟩
    exact ⟨rest, (eq_append_of_after? found).symm⟩
  · rintro ⟨rest, rfl⟩
    exact ⟨rest, after?_append lead rest⟩

/-- A text ends with another one if that is the back of it. -/
theorem endsWith_iff {tail text : Text} : endsWith tail text = true ↔ tail <:+ text := by
  rw [endsWith, startsWith_iff, List.reverse_prefix]

end Text

namespace Markdown

/-- The text with its last line ended, if there is a line. -/
def endLine (written : Text) : Text :=
  if written = [] ∨ ['\n'] <:+ written then written else written ++ ['\n']

/-- The text with a blank line behind it, if it is not empty. -/
def leaveBlankLine (written : Text) : Text :=
  if written = [] ∨ ['\n', '\n'] <:+ written then written else endLine written ++ ['\n']

namespace Output

/-- The output stands for the text, and no fragment of it is empty. -/
structure Holds (output : Output) (written : Text) : Prop where
  nonempty : ∀ fragment ∈ output.fragments, fragment ≠ []
  text_eq : output.text = written

/-- Texts that are not empty have together a character for each of them at least. -/
theorem length_le_flatten {fragments : List Text}
    (nonempty : ∀ fragment ∈ fragments, fragment ≠ []) :
    fragments.length ≤ fragments.flatten.length := by
  induction fragments with
  | nil => exact Nat.zero_le 0
  | cons fragment rest inductionHypothesis =>
      have positive := List.length_pos_iff.2 (nonempty fragment List.mem_cons_self)
      have later := inductionHypothesis fun other member =>
        nonempty other (List.mem_cons_of_mem fragment member)
      simp only [List.length_cons, List.flatten_cons, List.length_append]
      omega

namespace Holds

variable {output : Output} {written : Text}

/-- Nothing has been written at the start. -/
theorem empty : Holds empty [] where
  nonempty := fun fragment member => by cases member
  text_eq := rfl

/-- Writing a fragment puts it behind what has been written. -/
theorem write (holds : Holds output written) (fragment : Text) :
    Holds (output.write fragment) (written ++ fragment) where
  nonempty := write_nonempty holds.nonempty fragment
  text_eq := by rw [text_write, holds.text_eq]

/-- The output has fragments if anything has been written. -/
theorem fragments_eq_nil (holds : Holds output written) : output.fragments = [] ↔ written = [] := by
  rw [← holds.text_eq]
  constructor
  · intro nothing
    rw [text, nothing]
    rfl
  · intro nothing
    cases found : output.fragments with
    | nil => rfl
    | cons fragment rest =>
        have present := holds.nonempty fragment (found ▸ List.mem_cons_self)
        rw [text, found] at nothing
        simp [present] at nothing

/-- The last fragments end as the whole text does. -/
theorem endsWith_iff (holds : Holds output written) (suffix : Text) :
    output.endsWith suffix = true ↔ suffix <:+ written := by
  rw [endsWith, Text.endsWith_iff, ← holds.text_eq]
  let last := (output.fragments.take suffix.length).reverse.flatten
  let first := (output.fragments.drop suffix.length).reverse.flatten
  have whole : output.text = first ++ last := by
    rw [← List.flatten_append, ← List.reverse_append, List.take_append_drop]
    rfl
  constructor
  · intro ends
    rw [whole]
    exact List.suffix_append_of_suffix ends
  · intro ends
    by_cases short : output.fragments.length ≤ suffix.length
    · rw [List.take_of_length_le short]
      exact ends
    · -- there are as many fragments as characters, and each has one
      have enough : suffix.length ≤ last.length := by
        have filled : ∀ fragment ∈ (output.fragments.take suffix.length).reverse, fragment ≠ [] :=
          fun fragment member =>
            holds.nonempty fragment (List.mem_of_mem_take (List.mem_reverse.1 member))
        have counted := length_le_flatten filled
        rw [List.length_reverse, List.length_take, Nat.min_eq_left (by omega)] at counted
        exact counted
      refine List.suffix_of_suffix_length_le ends ?_ enough
      rw [whole]
      exact List.suffix_append first last

/-- There is output without an ending exactly if the text is not empty and does not end so. -/
theorem lacks_iff (holds : Holds output written) (suffix : Text) :
    (output.fragments ≠ [] ∧ output.endsWith suffix = false) ↔
      ¬(written = [] ∨ suffix <:+ written) := by
  rw [not_or, ne_eq, holds.fragments_eq_nil, ← Bool.not_eq_true, holds.endsWith_iff]

/-- Ending the line in progress ends the last line of the text. -/
theorem ensureNewline (holds : Holds output written) :
    Holds output.ensureNewline (endLine written) := by
  unfold Output.ensureNewline endLine
  by_cases ended : written = [] ∨ ['\n'] <:+ written
  · rw [if_pos ended, if_neg (fun lacks => (holds.lacks_iff _).1 lacks ended)]
    exact holds
  · rw [if_neg ended, if_pos ((holds.lacks_iff _).2 ended)]
    exact holds.write ['\n']

/-- A blank line is left behind the text. -/
theorem ensureBlankLine (holds : Holds output written) :
    Holds output.ensureBlankLine (leaveBlankLine written) := by
  unfold Output.ensureBlankLine leaveBlankLine
  by_cases left : written = [] ∨ ['\n', '\n'] <:+ written
  · rw [if_pos left, if_neg (fun lacks => (holds.lacks_iff _).1 lacks left)]
    exact holds
  · rw [if_neg left, if_pos ((holds.lacks_iff _).2 left)]
    exact holds.ensureNewline.write ['\n']

end Holds

end Output

end Markdown

end EditorData

import EditorData.Proofs.Text.Lines
import EditorData.Text.Blank

/-!
# What shows of a text

The characters of a text other than blanks of ASCII, in order. Trimming blanks and taking a text
apart into lines keeps all of them.
-/

namespace EditorData.Text

open scoped List

/-- The characters that are no blanks of ASCII. -/
def visible (text : Text) : Text :=
  text.filter fun c => !isBlank c

@[simp] theorem visible_nil : visible [] = [] := rfl

@[simp] theorem visible_append (left right : Text) :
    visible (left ++ right) = visible left ++ visible right :=
  List.filter_append left right

/-- What shows of a text stands in the text. -/
theorem visible_sublist (text : Text) : visible text <+ text :=
  List.filter_sublist

/-- What shows of a part shows of the whole. -/
theorem visible_mono {part whole : Text} (within : part <+ whole) : visible part <+ visible whole :=
  within.filter _

/-- A blank in front does not show. -/
theorem visible_cons_blank {c : Char} (blank : isBlank c = true) (text : Text) :
    visible (c :: text) = visible text := by
  simp [visible, blank]

/-- Texts that show what others show show it also one behind the other. -/
theorem visible_flatMap {lay : Text -> Text} (same : ∀ part, visible (lay part) = visible part)
    (parts : List Text) : visible (parts.flatMap lay) = parts.flatMap visible := by
  induction parts with
  | nil => rfl
  | cons part parts inductionHypothesis =>
      rw [List.flatMap_cons, visible_append, same, inductionHypothesis, List.flatMap_cons]

section Trimming

variable {blank : Char -> Bool} (blanks : ∀ c, blank c = true -> isBlank c = true)

include blanks

/-- Blanks that are trimmed in front do not show. -/
theorem visible_trimStart (text : Text) : visible (trimStart blank text) = visible text := by
  induction text with
  | nil => rfl
  | cons c text inductionHypothesis =>
      rw [trimStart, List.dropWhile_cons]
      split
      · next trimmed =>
          rw [visible_cons_blank (blanks c trimmed)]
          exact inductionHypothesis
      · rfl

/-- Blanks that are trimmed behind do not show. -/
theorem visible_trimEnd (text : Text) : visible (trimEnd blank text) = visible text := by
  induction text with
  | nil => rfl
  | cons c text inductionHypothesis =>
      rw [trimEnd]
      split
      · next nothing =>
          rw [nothing, visible_nil] at inductionHypothesis
          split
          · next trimmed =>
              rw [visible_cons_blank (blanks c trimmed)]
              exact inductionHypothesis
          · rw [← List.singleton_append (l := text), visible_append, ← inductionHypothesis,
              List.append_nil]
      · rw [← List.singleton_append, visible_append, inductionHypothesis, ← visible_append]
        rfl

/-- Blanks that are trimmed do not show. -/
theorem visible_trim (text : Text) : visible (trim blank text) = visible text := by
  rw [trim, visible_trimEnd blanks, visible_trimStart blanks]

end Trimming

/-- Trimming a text of blanks of ASCII keeps what shows of it. -/
@[simp] theorem visible_trimmed (text : Text) : visible (trimmed text) = visible text :=
  visible_trim (fun _ blank => blank) text

/-- The lines of a text show together what the text shows. -/
theorem visible_lines (text : Text) : (lines text).flatMap visible = visible text := by
  induction text with
  | nil => rfl
  | cons c text inductionHypothesis =>
      rw [lines, parts]
      split
      · next feed =>
          subst feed
          rw [List.flatMap_cons, visible_nil, List.nil_append, visible_cons_blank (by decide)]
          exact inductionHypothesis
      · split
        · next nothing => exact absurd nothing (parts_ne_nil '\n' text)
        · next part others found =>
            rw [lines, found, List.flatMap_cons] at inductionHypothesis
            rw [List.flatMap_cons, ← List.singleton_append (l := part), visible_append,
              List.append_assoc, inductionHypothesis, ← visible_append]
            rfl

/-- How many characters of a text show. -/
def shown (text : Text) : Nat :=
  (visible text).length

@[simp] theorem shown_nil : shown [] = 0 := rfl

@[simp] theorem shown_append (left right : Text) :
    shown (left ++ right) = shown left + shown right := by
  rw [shown, visible_append, List.length_append, shown, shown]

/-- A part does not show more than the whole. -/
theorem shown_le {part whole : Text} (within : part <+ whole) : shown part ≤ shown whole :=
  (visible_mono within).length_le

end EditorData.Text

import EditorData.Proofs.Text.Visible
import EditorData.Reference.Builtin

/-!
# Tidied markdown

Tidying only drops line feeds at the ends of markdown and spaces at the ends of its lines. It goes
from the end of the text to its front, and a character that is kept hides what stands behind it
(`trimLines_append`), so a stretch of text that ends with such a character is tidied on its own,
whatever stands around it
(`trimLines_infix_tidy`).
-/

namespace EditorData.Reference

/-- A character in front of tidied text: a space at the end of a line is dropped. -/
def keepInFront (c : Char) (tidied : Text) : Text :=
  if c = ' ' ∧ (tidied = [] ∨ tidied.head? = some '\n') then tidied else c :: tidied

/-- The text without the spaces at the ends of its lines. -/
def trimLines (text : Text) : Text :=
  text.foldr keepInFront []

/-- Another character than a space is kept. -/
theorem keepInFront_of_ne {c : Char} (differs : c ≠ ' ') (tidied : Text) :
    keepInFront c tidied = c :: tidied :=
  if_neg fun space => differs space.1

/-- What stands behind the first one of several lines. -/
def behindLine : List Text -> Text
  | [] => []
  | others => '\n' :: Text.joined ['\n'] others

/-- Lines one behind the other are the first one and what stands behind it. -/
theorem joined_cons (line : Text) (others : List Text) :
    Text.joined ['\n'] (line :: others) = line ++ behindLine others := by
  cases others with
  | nil => exact (List.append_nil line).symm
  | cons next rest => simp [Text.joined, behindLine]

/-- A character in front of a line stays exactly if the line goes on behind it or it is no
space. -/
theorem keepInFront_line {c : Char} {line : Text} (oneLine : '\n' ∉ line) (others : List Text) :
    keepInFront c (Text.trimEnd (· == ' ') line ++ behindLine others) =
      Text.trimEnd (· == ' ') (c :: line) ++ behindLine others := by
  rw [Text.trimEnd]
  cases kept : Text.trimEnd (· == ' ') line with
  | nil =>
      have ends : behindLine others = [] ∨ (behindLine others).head? = some '\n' := by
        cases others with
        | nil => exact .inl rfl
        | cons next rest => exact .inr rfl
      simp only [keepInFront, List.nil_append, ends, and_true, beq_iff_eq]
      split <;> rfl
  | cons first rest =>
      have within : first ∈ line :=
        (Text.trimEnd_prefix (· == ' ') line).subset (kept ▸ List.mem_cons_self)
      have differs : first ≠ '\n' := fun same => oneLine (same ▸ within)
      simp [keepInFront, differs]

/-- Trimming the ends of lines one by one is trimming them from the end of the text on. -/
theorem joined_map_trimEnd (text : Text) :
    Text.joined ['\n'] ((Text.lines text).map (Text.trimEnd (· == ' '))) = trimLines text := by
  induction text with
  | nil => rfl
  | cons c text inductionHypothesis =>
      rw [trimLines, List.foldr_cons, ← trimLines, ← inductionHypothesis, Text.lines, Text.lines,
        Text.parts]
      cases found : Text.parts '\n' text with
      | nil => exact absurd found (Text.parts_ne_nil '\n' text)
      | cons line others =>
          have oneLine : '\n' ∉ line :=
            Text.separator_not_mem_part (found ▸ List.mem_cons_self)
          split
          · next feed =>
              subst feed
              rw [keepInFront_of_ne (by decide)]
              simp [Text.joined, Text.trimEnd]
          · rw [List.map_cons, List.map_cons, joined_cons, joined_cons, keepInFront_line oneLine]

/-- Tidying as a walk from the end of the text. -/
theorem tidy_eq (markdown : Text) : tidy markdown = trimLines (Text.trim (· == '\n') markdown) :=
  joined_map_trimEnd _

/-- What stands behind a character that is kept does not decide what is kept in front. -/
theorem foldr_keepInFront (text : Text) (last : Char) (behind : Text) :
    text.foldr keepInFront (last :: behind) = text.foldr keepInFront [last] ++ behind := by
  have filled : ∀ text : Text, text.foldr keepInFront [last] ≠ [] := by
    intro text
    induction text with
    | nil => exact List.cons_ne_nil last []
    | cons c text inductionHypothesis =>
        rw [List.foldr_cons, keepInFront]
        split
        · exact inductionHypothesis
        · exact List.cons_ne_nil c _
  induction text with
  | nil => rfl
  | cons c text inductionHypothesis =>
      rw [List.foldr_cons, List.foldr_cons, inductionHypothesis]
      cases kept : text.foldr keepInFront [last] with
      | nil => exact absurd kept (filled text)
      | cons first rest =>
          simp only [keepInFront, List.cons_append, List.head?_cons, reduceCtorEq, false_or]
          split <;> rfl

/-- What is tidied in front leaves what has been tidied behind. -/
theorem suffix_foldr_keepInFront (text tidied : Text) :
    tidied <:+ text.foldr keepInFront tidied := by
  induction text with
  | nil => exact List.suffix_rfl
  | cons c text inductionHypothesis =>
      rw [List.foldr_cons, keepInFront]
      split
      · exact inductionHypothesis
      · exact inductionHypothesis.trans (List.suffix_cons c _)

/-- A stretch of text that ends with another character than a space keeps the ends of its lines
whatever stands around it. -/
theorem trimLines_infix {last : Char} (differs : last ≠ ' ') (left inner right : Text) :
    trimLines (inner ++ [last]) <:+: trimLines (left ++ (inner ++ [last]) ++ right) := by
  have whole : trimLines (left ++ (inner ++ [last]) ++ right) =
      left.foldr keepInFront (trimLines (inner ++ [last]) ++ trimLines right) := by
    simp only [trimLines, List.foldr_append, List.foldr_cons, List.foldr_nil,
      keepInFront_of_ne differs]
    rw [foldr_keepInFront]
  rw [whole]
  exact (List.prefix_append _ _).isInfix.trans (suffix_foldr_keepInFront left _).isInfix

section Between

variable {first last : Char} (firstKept : first ≠ '\n') (lastKept : last ≠ '\n')

include firstKept lastKept

/-- A stretch of text behind line feeds is tidied by trimming its lines. -/
theorem tidy_of_feeds {lead : Text} (feeds : Text.trimStart (· == '\n') lead = []) (inner : Text) :
    tidy (lead ++ (first :: inner ++ [last])) = trimLines (first :: inner ++ [last]) := by
  have trimmed := Text.trim_append (· == '\n') (beq_eq_false_iff_ne.2 firstKept)
    (beq_eq_false_iff_ne.2 lastKept) lead inner []
  rw [List.append_nil, feeds] at trimmed
  rw [tidy_eq, trimmed, List.nil_append]
  exact congrArg trimLines (List.append_nil _)

/-- A stretch of text among others stands in what they are tidied to, with its lines trimmed. -/
theorem trimLines_infix_tidy (noSpace : last ≠ ' ') (left inner right : Text) :
    trimLines (first :: inner ++ [last]) <:+:
      tidy (left ++ (first :: inner ++ [last]) ++ right) := by
  rw [tidy_eq, Text.trim_append (· == '\n') (beq_eq_false_iff_ne.2 firstKept)
    (beq_eq_false_iff_ne.2 lastKept)]
  exact trimLines_infix noSpace _ (first :: inner) _

end Between

/-- Tidied markdown shows what the markdown shows. -/
theorem visible_tidy (markdown : Text) : Text.visible (tidy markdown) = Text.visible markdown := by
  have feed : ∀ c : Char, (c == '\n') = true -> Text.isBlank c = true := by
    intro c same
    rw [eq_of_beq same]
    rfl
  rw [tidy_eq, ← Text.visible_trim feed markdown]
  induction Text.trim (· == '\n') markdown with
  | nil => rfl
  | cons c text inductionHypothesis =>
      rw [trimLines, List.foldr_cons, ← trimLines, keepInFront]
      split
      · next space =>
          rw [inductionHypothesis, space.1, Text.visible_cons_blank (by decide)]
      · rw [← List.singleton_append, Text.visible_append, inductionHypothesis,
          ← Text.visible_append]
        rfl

end EditorData.Reference

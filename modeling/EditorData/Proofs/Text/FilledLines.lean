import EditorData.Proofs.Text.Trimming
import EditorData.Text.Blank

/-!
# Lines that are not empty

A text that neither begins nor ends with a line feed has a line that is not empty, and it has only
one exactly if it has no line feed (`length_filled_lines`). So the lines of many such
texts can be counted to see that none of them is broken. If it has several lines, it begins with the
first one that is not empty and ends with the last one (`exists_filled_ends`).
-/

namespace EditorData.Text

variable {text left right : Text}

/-- The lines that are not empty. -/
def filled (lines : List Text) : List Text :=
  lines.filter (!·.isEmpty)

/-- A text in one line is that line. -/
theorem filled_lines_of_not_mem (present : text ≠ []) (free : '\n' ∉ text) :
    filled (lines text) = [text] := by
  rw [lines, parts_of_not_mem free, filled]
  exact List.filter_cons_of_pos (by simpa using present)

/-- A text with another character than line feeds has a line that is not empty. -/
theorem length_filled_lines_pos {c : Char} (member : c ∈ text) (other : c ≠ '\n') :
    0 < (filled (lines text)).length := by
  rw [← joined_lines text] at member
  rcases mem_joined member with same | ⟨line, held, within⟩
  · exact absurd same other
  · refine List.length_pos_of_mem (List.mem_filter.mpr ⟨held, ?_⟩)
    simpa using List.ne_nil_of_mem within

/-- A line feed ends a line. -/
theorem filled_lines_append (left right : Text) :
    filled (lines (left ++ '\n' :: right)) = filled (lines left) ++ filled (lines right) := by
  rw [lines, parts_append]
  exact List.filter_append _ _

/-- A text that is no line feed at either end has a line that is not empty, and only one exactly if
it has no line feed. -/
theorem length_filled_lines (trimmed : IsTrimmed (· == '\n') text) (present : text ≠ []) :
    1 ≤ (filled (lines text)).length ∧ ((filled (lines text)).length = 1 ↔ '\n' ∉ text) := by
  by_cases held : '\n' ∈ text
  · obtain ⟨left, right, rfl⟩ := List.append_of_mem held
    -- On both sides of the line feed there is the character at the end of the text.
    have before : 0 < (filled (lines left)).length := by
      cases left with
      | nil => exact absurd (trimmed.first '\n' rfl) (by decide)
      | cons first left =>
          exact length_filled_lines_pos List.mem_cons_self (beq_eq_false_iff_ne.mp
            (trimmed.first first rfl))
    have behind : 0 < (filled (lines right)).length := by
      rcases List.eq_nil_or_concat right with rfl | ⟨front, last, spelled⟩
      · exact absurd (trimmed.last '\n' (by simp)) (by decide)
      · rw [List.concat_eq_append] at spelled
        subst spelled
        refine length_filled_lines_pos (List.mem_append_right front List.mem_cons_self)
          (beq_eq_false_iff_ne.mp (trimmed.last last ?_))
        rw [← List.cons_append, ← List.append_assoc, List.getLast?_concat]
        rfl
    rw [filled_lines_append, List.length_append]
    exact ⟨by omega, iff_of_false (by omega) fun free => free held⟩
  · rw [filled_lines_of_not_mem present held]
    exact ⟨Nat.le_refl 1, iff_of_true rfl held⟩

/-- A text that begins as a trimmed text and ends as another one is trimmed. -/
theorem IsTrimmed.append {blank : Char -> Bool} (begins : IsTrimmed blank left)
    (ends : IsTrimmed blank right) : IsTrimmed blank (left ++ right) where
  first c found := by
    rw [List.head?_append] at found
    rcases Option.or_eq_some_iff.mp found with front | ⟨-, behind⟩
    · exact begins.first c front
    · exact ends.first c behind
  last c found := by
    rw [List.getLast?_append] at found
    rcases Option.or_eq_some_iff.mp found with behind | ⟨-, front⟩
    · exact ends.last c behind
    · exact begins.last c front

/-- A text without blanks at its ends is no line feed at either end. -/
theorem isTrimmed_lineFeed_trimmed (text : Text) : IsTrimmed (· == '\n') (trimmed text) where
  first c found := beq_eq_false_iff_ne.mpr fun same =>
    absurd ((isTrimmed_trim isBlank text).first c found) (by rw [same]; decide)
  last c found := beq_eq_false_iff_ne.mpr fun same =>
    absurd ((isTrimmed_trim isBlank text).last c found) (by rw [same]; decide)

/-- A text begins as its front does, if there is one. -/
theorem head?_append_of_ne_nil {front : Text} (present : front ≠ []) (rest : Text) :
    (front ++ rest).head? = front.head? := by
  rw [List.head?_append, List.head?_eq_some_head present, Option.some_or]

/-- A text ends as its back does, if there is one. -/
theorem getLast?_append_of_ne_nil {back : Text} (present : back ≠ []) (front : Text) :
    (front ++ back).getLast? = back.getLast? := by
  rw [List.getLast?_append, List.getLast?_eq_some_getLast present, Option.some_or]

/-- A text with a line feed has a first line, in front of the first one. -/
theorem exists_first_line (several : '\n' ∈ text) :
    ∃ first rest, text = first ++ '\n' :: rest ∧ lines text = first :: lines rest := by
  obtain ⟨first, rest, whole, free⟩ := List.eq_append_cons_of_mem several
  refine ⟨first, rest, whole, ?_⟩
  rw [whole, lines, parts_append, parts_of_not_mem free]
  rfl

/-- A text has a last line, behind its last line feed if there is one. -/
theorem exists_last_line (text : Text) :
    ∃ front last, lines text = front ++ [last] ∧ last <:+ text ∧
      (last = [] → text = [] ∨ text.getLast? = some '\n') := by
  by_cases held : '\n' ∈ text
  · obtain ⟨back, front, turned, free⟩ :=
      List.eq_append_cons_of_mem (List.mem_reverse.mpr held)
    have whole : text = front.reverse ++ '\n' :: back.reverse := by
      rw [← List.reverse_reverse text, turned]
      simp
    have alone := parts_of_not_mem (show '\n' ∉ back.reverse by simpa using free)
    refine ⟨lines front.reverse, back.reverse, ?_, ⟨front.reverse ++ ['\n'], by simp [whole]⟩, ?_⟩
    · rw [whole, lines, parts_append, alone]
      rfl
    · intro empty
      rw [whole, empty, List.getLast?_concat]
      exact .inr rfl
  · exact ⟨[], text, parts_of_not_mem held, List.suffix_refl text, .inl⟩

/-- A text in several lines that is no line feed at either end begins with the first line that is
not empty and ends with the last one, and these are two. -/
theorem exists_filled_ends (trimmed : IsTrimmed (· == '\n') text) (several : '\n' ∈ text) :
    ∃ first between last, filled (lines text) = first :: (between ++ [last]) ∧
      first.head? = text.head? ∧ last.getLast? = text.getLast? := by
  obtain ⟨first, rest, whole, begins⟩ := exists_first_line several
  obtain ⟨front, last, ends, ⟨before, behind⟩, noLast⟩ := exists_last_line rest
  have present : first ≠ [] := by
    rintro rfl
    exact absurd (trimmed.first '\n' (by rw [whole]; rfl)) (by decide)
  have presentLast : last ≠ [] := by
    intro empty
    have feed : text.getLast? = some '\n' := by
      rcases noLast empty with nothing | feed
      · rw [whole, nothing, List.getLast?_concat]
      · rw [whole, List.getLast?_append, List.getLast?_cons, feed]
        rfl
    exact absurd (trimmed.last '\n' feed) (by decide)
  refine ⟨first, filled front, last, ?_, ?_, ?_⟩
  · rw [begins, ends, filled, List.filter_cons_of_pos (by simpa using present), List.filter_append,
      List.filter_cons_of_pos (by simpa using presentLast)]
    rfl
  · rw [whole, head?_append_of_ne_nil present]
  · have split : text = (first ++ '\n' :: before) ++ last := by rw [whole, ← behind]; simp
    rw [split, getLast?_append_of_ne_nil presentLast]

/-- Parts begin as the first one does. -/
theorem head?_joined {first : Text} (present : first ≠ []) (separator : Text)
    (others : List Text) : (joined separator (first :: others)).head? = first.head? := by
  cases others with
  | nil => rfl
  | cons next rest => rw [joined, List.append_assoc, head?_append_of_ne_nil present]

/-- Parts end as the last one does. -/
theorem getLast?_joined {last : Text} (present : last ≠ []) (separator : Text)
    (front : List Text) : (joined separator (front ++ [last])).getLast? = last.getLast? := by
  cases front with
  | nil => rfl
  | cons first front =>
      induction front generalizing first with
      | nil => exact getLast?_append_of_ne_nil present _
      | cons next front inductionHypothesis =>
          have behind := inductionHypothesis next
          rw [List.cons_append] at behind
          rw [List.cons_append, List.cons_append, joined, List.getLast?_append, behind,
            List.getLast?_eq_some_getLast present, Option.some_or]

/-- Among pieces of at least two items each, two for each piece is one piece after the other of
exactly two. -/
theorem length_eq_two_of_flatMap {α β : Type} {pieces : α -> List β} {list : List α}
    (atLeast : ∀ item ∈ list, 2 ≤ (pieces item).length)
    (total : (list.flatMap pieces).length = 2 * list.length) :
    ∀ item ∈ list, (pieces item).length = 2 := by
  have bound (list : List α) (atLeast : ∀ item ∈ list, 2 ≤ (pieces item).length) :
      2 * list.length ≤ (list.flatMap pieces).length := by
    induction list with
    | nil => exact Nat.le_refl 0
    | cons item rest inductionHypothesis =>
        obtain ⟨first, later⟩ := List.forall_mem_cons.mp atLeast
        have behind := inductionHypothesis later
        rw [List.flatMap_cons, List.length_append, List.length_cons]
        omega
  induction list with
  | nil => nofun
  | cons item rest inductionHypothesis =>
      obtain ⟨first, later⟩ := List.forall_mem_cons.mp atLeast
      have behind := bound rest later
      rw [List.flatMap_cons, List.length_append, List.length_cons] at total
      exact List.forall_mem_cons.mpr ⟨by omega, inductionHypothesis later (by omega)⟩

end EditorData.Text

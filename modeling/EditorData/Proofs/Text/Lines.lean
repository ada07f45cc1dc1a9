import EditorData.Text.Basic
import Mathlib.Data.List.DropRight

/-!
# Lines and trimmed ends

What the parts of a text and its trimmed forms have to do with the text itself.
-/

namespace EditorData.Text

/-- A part has no separator. -/
theorem separator_not_mem_part {separator : Char} {text part : Text}
    (member : part ∈ parts separator text) : separator ∉ part := by
  induction text generalizing part with
  | nil =>
      obtain rfl := List.mem_singleton.1 member
      exact List.not_mem_nil
  | cons c text inductionHypothesis =>
      by_cases same : c = separator
      · rw [parts, if_pos same] at member
        rcases List.mem_cons.1 member with rfl | later
        · exact List.not_mem_nil
        · exact inductionHypothesis later
      · rw [parts, if_neg same] at member
        cases found : parts separator text with
        | nil => exact absurd found (parts_ne_nil separator text)
        | cons first others =>
            rw [found] at member inductionHypothesis
            rcases List.mem_cons.1 member with rfl | later
            · intro inside
              rcases List.mem_cons.1 inside with equal | within
              · exact same equal.symm
              · exact inductionHypothesis List.mem_cons_self within
            · exact inductionHypothesis (List.mem_cons_of_mem first later)

/-- The parts on either side of a separator are parts of the whole. -/
theorem parts_append (separator : Char) (left right : Text) :
    parts separator (left ++ separator :: right) = parts separator left ++ parts separator right := by
  induction left with
  | nil => simp [parts]
  | cons c left inductionHypothesis =>
      by_cases same : c = separator
      · rw [List.cons_append, parts, if_pos same, parts, if_pos same, inductionHypothesis,
          List.cons_append]
      · rw [List.cons_append, parts, if_neg same, parts, if_neg same, inductionHypothesis]
        cases found : parts separator left with
        | nil => exact absurd found (parts_ne_nil separator left)
        | cons part others => rfl

/-- What is behind a line feed begins in a line of its own. -/
theorem lines_append (front right : Text) :
    lines (front ++ ['\n'] ++ right) = (lines (front ++ ['\n'])).dropLast ++ lines right := by
  have alone : lines (front ++ ['\n']) = lines front ++ [[]] := parts_append '\n' front []
  have split := parts_append '\n' front right
  rw [alone, List.dropLast_concat, List.append_assoc, List.singleton_append]
  exact split

/-- The lines of pieces that end in line feeds are those of the pieces. -/
theorem lines_flatMap_append {α : Type} (piece : α -> Text) (list : List α) (rest : Text) :
    lines (list.flatMap (fun item => piece item ++ ['\n']) ++ rest) =
      list.flatMap (fun item => lines (piece item)) ++ lines rest := by
  induction list with
  | nil => rfl
  | cons item others inductionHypothesis =>
      have split := parts_append '\n' (piece item)
        (others.flatMap (fun item => piece item ++ ['\n']) ++ rest)
      rw [List.flatMap_cons, List.flatMap_cons, List.append_assoc (lines _), ← inductionHypothesis]
      simp only [List.append_assoc, List.singleton_append]
      exact split

/-- A text without separator is its only part. -/
theorem parts_of_not_mem {separator : Char} {text : Text} (free : separator ∉ text) :
    parts separator text = [text] := by
  induction text with
  | nil => rfl
  | cons c text inductionHypothesis =>
      have differs : c ≠ separator := fun same => free (same ▸ List.mem_cons_self)
      rw [parts, if_neg differs, inductionHypothesis fun held => free (List.mem_cons_of_mem c held)]

/-- Parts with separators between them are found again. -/
theorem parts_joined {separator : Char} {list : List Text} (present : list ≠ [])
    (free : ∀ part ∈ list, separator ∉ part) :
    parts separator (joined [separator] list) = list := by
  induction list with
  | nil => exact absurd rfl present
  | cons part others inductionHypothesis =>
      obtain ⟨first, later⟩ := List.forall_mem_cons.1 free
      cases others with
      | nil => exact parts_of_not_mem first
      | cons next rest =>
          rw [joined, List.append_assoc, List.singleton_append, parts_append,
            parts_of_not_mem first, inductionHypothesis (List.cons_ne_nil next rest) later,
            List.singleton_append]

/-- Parts with more parts behind the first one. -/
theorem joined_cons_of_ne_nil {separator part : Text} {others : List Text} (further : others ≠ []) :
    joined separator (part :: others) = part ++ separator ++ joined separator others := by
  cases others with
  | nil => exact absurd rfl further
  | cons next rest => rfl

/-- What is counted piece by piece is counted in the parts, and in the separators between them. -/
theorem measure_joined {measure : Text -> Nat}
    (additive : ∀ left right, measure (left ++ right) = measure left + measure right)
    (separator : Text) {list : List Text} (present : list ≠ []) :
    measure (joined separator list) =
      measure list.flatten + (list.length - 1) * measure separator := by
  induction list with
  | nil => exact absurd rfl present
  | cons part others inductionHypothesis =>
      cases others with
      | nil => simp [joined]
      | cons next rest =>
          have whole : measure (part :: next :: rest).flatten =
              measure part + measure (next :: rest).flatten := additive part _
          rw [joined, additive, additive, inductionHypothesis (List.cons_ne_nil next rest), whole]
          simp only [List.length_cons, Nat.add_sub_cancel, Nat.add_mul]
          omega

/-- A character between parts is in one of them, or the separator. -/
theorem mem_joined {separator c : Char} {list : List Text} (member : c ∈ joined [separator] list) :
    c = separator ∨ ∃ part ∈ list, c ∈ part := by
  fun_induction joined [separator] list with
  | case1 => cases member
  | case2 part => exact .inr ⟨part, List.mem_cons_self, member⟩
  | case3 part next rest inductionHypothesis =>
      simp only [List.mem_append, List.mem_singleton] at member
      rcases member with (within | mark) | later
      · exact .inr ⟨part, List.mem_cons_self, within⟩
      · exact .inl mark
      · rcases inductionHypothesis later with mark | ⟨other, held, within⟩
        · exact .inl mark
        · exact .inr ⟨other, List.mem_cons_of_mem part held, within⟩

/-- The characters of a part are in the text of all parts. -/
theorem subset_joined {separator part : Text} {list : List Text} (held : part ∈ list) :
    part ⊆ joined separator list := by
  fun_induction joined separator list with
  | case1 => cases held
  | case2 only => exact List.mem_singleton.1 held ▸ List.Subset.refl part
  | case3 first next rest inductionHypothesis =>
      rcases List.mem_cons.1 held with rfl | later
      · rw [List.append_assoc]
        exact List.subset_append_left part _
      · exact List.subset_append_of_subset_right _ (inductionHypothesis later)

/-- What has been trimmed off the end of a text is made up of characters to trim. -/
theorem exists_trimmedOff (blank : Char -> Bool) (text : Text) :
    ∃ trailing, text = trimEnd blank text ++ trailing ∧ ∀ c ∈ trailing, blank c = true := by
  induction text with
  | nil => exact ⟨[], rfl, nofun⟩
  | cons c text inductionHypothesis =>
      obtain ⟨trailing, whole, blanks⟩ := inductionHypothesis
      rw [trimEnd]
      cases kept : trimEnd blank text with
      | nil =>
          rw [kept, List.nil_append] at whole
          subst whole
          dsimp only
          split
          · next trimmed => exact ⟨c :: text, rfl, List.forall_mem_cons.2 ⟨trimmed, blanks⟩⟩
          · exact ⟨text, rfl, blanks⟩
      | cons first others =>
          rw [kept] at whole
          exact ⟨trailing, congrArg (c :: ·) whole, blanks⟩

/-- Trimming the end of a text leaves a front of it. -/
theorem trimEnd_prefix (blank : Char -> Bool) (text : Text) : trimEnd blank text <+: text := by
  obtain ⟨trailing, whole, -⟩ := exists_trimmedOff blank text
  exact ⟨trailing, whole.symm⟩

/-- A trimmed text does not end in a character that is trimmed off. -/
theorem getLast?_trimEnd_ne (blank : Char -> Bool) (text : Text) {c : Char}
    (trimmed : blank c = true) : (trimEnd blank text).getLast? ≠ some c := by
  induction text with
  | nil => simp [trimEnd]
  | cons first text inductionHypothesis =>
      unfold trimEnd
      split
      · split
        · simp
        · next kept =>
            intro last
            cases last
            exact kept trimmed
      · next kept =>
          cases found : trimEnd blank text with
          | nil => exact (kept found).elim
          | cons second others =>
              rw [List.getLast?_cons_cons, ← found]
              exact inductionHypothesis

section Trimming

variable {blank : Char -> Bool} {c : Char}

/-- Characters to trim behind a text are trimmed with those at its end. -/
theorem trimEnd_append_blanks {blanks : Text} (trimmed : ∀ c ∈ blanks, blank c = true)
    (text : Text) : trimEnd blank (text ++ blanks) = trimEnd blank text := by
  induction text with
  | nil =>
      induction blanks with
      | nil => rfl
      | cons c blanks inductionHypothesis =>
          obtain ⟨first, later⟩ := List.forall_mem_cons.1 trimmed
          have behind : trimEnd blank blanks = [] := inductionHypothesis later
          show trimEnd blank (c :: blanks) = []
          rw [trimEnd, behind]
          exact if_pos first
  | cons c text inductionHypothesis => rw [List.cons_append, trimEnd, inductionHypothesis, trimEnd]

/-- Trimming the front of a text stops at the first character that is kept. -/
theorem trimStart_append_cons (kept : blank c = false) (left right : Text) :
    trimStart blank (left ++ c :: right) = trimStart blank left ++ c :: right := by
  induction left with
  | nil => exact List.dropWhile_cons_of_neg (by simp [kept])
  | cons d left inductionHypothesis =>
      rw [List.cons_append, trimStart, trimStart, List.dropWhile_cons, List.dropWhile_cons]
      split
      · exact inductionHypothesis
      · rfl

/-- Trimming the end of a text stops at the last character that is kept. -/
theorem trimEnd_append_cons (kept : blank c = false) (left right : Text) :
    trimEnd blank (left ++ c :: right) = left ++ c :: trimEnd blank right := by
  induction left with
  | nil =>
      rw [List.nil_append, trimEnd]
      cases trimEnd blank right with
      | nil => exact if_neg (by simp [kept])
      | cons d rest => rfl
  | cons d left inductionHypothesis =>
      rw [List.cons_append, trimEnd, inductionHypothesis]
      cases left <;> rfl

/-- Trimming stops on either side of a stretch of text between characters that are kept. -/
theorem trim_append (blank : Char -> Bool) {first last : Char} (keptFirst : blank first = false)
    (keptLast : blank last = false) (left inner right : Text) :
    trim blank (left ++ (first :: inner ++ [last]) ++ right) =
      trimStart blank left ++ (first :: inner ++ [last]) ++ trimEnd blank right := by
  have front : left ++ (first :: inner ++ [last]) ++ right =
      left ++ first :: (inner ++ last :: right) := by simp
  have back : trimStart blank left ++ first :: (inner ++ last :: right) =
      (trimStart blank left ++ first :: inner) ++ last :: right := by simp
  rw [trim, front, trimStart_append_cons keptFirst, back, trimEnd_append_cons keptLast]
  simp

/-- The end of a text is trimmed as by dropping characters from its back. -/
theorem trimEnd_eq_rdropWhile (blank : Char -> Bool) (text : Text) :
    trimEnd blank text = text.rdropWhile blank := by
  induction text using List.reverseRecOn with
  | nil => rfl
  | append_singleton front c inductionHypothesis =>
      by_cases trimmed : blank c = true
      · have only : ∀ d ∈ [c], blank d = true := by simpa using trimmed
        rw [trimEnd_append_blanks only, List.rdropWhile_concat_pos blank front c trimmed,
          inductionHypothesis]
      · rw [trimEnd_append_cons (Bool.eq_false_iff.2 trimmed),
          List.rdropWhile_concat_neg blank front c trimmed, trimEnd]

end Trimming

/-- Line ends that have been made equal hold no carriage return. -/
theorem return_not_mem_normalizeNewlines (text : Text) : '\r' ∉ normalizeNewlines text := by
  fun_induction normalizeNewlines text with
  | case1 => exact List.not_mem_nil
  | case2 text inductionHypothesis => simpa using inductionHypothesis
  | case3 text notPaired inductionHypothesis => simpa using inductionHypothesis
  | case4 c text notPaired notReturn inductionHypothesis =>
      intro held
      rcases List.mem_cons.mp held with rfl | later
      · exact notReturn rfl
      · exact inductionHypothesis later

/-- A text without carriage return keeps its line ends. -/
theorem normalizeNewlines_of_not_mem {text : Text} (free : '\r' ∉ text) :
    normalizeNewlines text = text := by
  fun_induction normalizeNewlines text with
  | case1 => rfl
  | case2 text inductionHypothesis => exact absurd List.mem_cons_self free
  | case3 text notPaired inductionHypothesis => exact absurd List.mem_cons_self free
  | case4 c text notPaired notReturn inductionHypothesis =>
      rw [inductionHypothesis fun held => free (List.mem_cons_of_mem c held)]

end EditorData.Text

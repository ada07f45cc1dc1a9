import EditorData.Proofs.Text.Lines

/-!
# Trimmed texts

A text is trimmed if it neither begins nor ends with a character to trim. Trimming a text gives such
a text and takes nothing but characters to trim off its ends, and a text of this kind stays as it
is. Characters to trim that are put around a text (`Surrounded`) make no difference.
-/

namespace EditorData.Text

variable {blank : Char -> Bool} {text : Text}

/-- A text with nothing to trim at its ends. -/
structure IsTrimmed (blank : Char -> Bool) (text : Text) : Prop where
  first : ∀ c ∈ text.head?, blank c = false
  last : ∀ c ∈ text.getLast?, blank c = false

instance (blank : Char -> Bool) (text : Text) : Decidable (IsTrimmed blank text) :=
  decidable_of_iff (text.head?.all (!blank ·) = true ∧ text.getLast?.all (!blank ·) = true) <| by
    simp only [Option.all_eq_true, Bool.not_eq_true']
    exact ⟨fun ⟨first, last⟩ => { first, last }, fun trimmed => ⟨trimmed.first, trimmed.last⟩⟩

/-- A text that does not end in a character to trim keeps its end. -/
theorem trimEnd_eq_self (kept : ∀ c ∈ text.getLast?, blank c = false) :
    trimEnd blank text = text := by
  cases last : text.getLast? with
  | none =>
      rw [List.getLast?_eq_none_iff.1 last]
      rfl
  | some c =>
      obtain ⟨front, rfl⟩ := List.getLast?_eq_some_iff.1 last
      exact trimEnd_append_cons (kept c last) front []

/-- A trimmed text stays as it is. -/
theorem IsTrimmed.trim_eq (trimmed : IsTrimmed blank text) : trim blank text = text := by
  cases text with
  | nil => rfl
  | cons c text =>
      have start : trimStart blank (c :: text) = c :: text :=
        List.dropWhile_cons_of_neg (by simp [trimmed.first c rfl])
      rw [trim, start]
      exact trimEnd_eq_self trimmed.last

/-- What trimming takes off the ends of a text is made up of characters to trim. -/
theorem exists_trimmedEnds (blank : Char -> Bool) (text : Text) :
    ∃ leading trailing, text = leading ++ trim blank text ++ trailing ∧
      (∀ c ∈ leading, blank c = true) ∧ ∀ c ∈ trailing, blank c = true := by
  obtain ⟨trailing, whole, blanks⟩ := exists_trimmedOff blank (trimStart blank text)
  refine ⟨text.takeWhile blank, trailing, ?_, List.all_eq_true.1 List.all_takeWhile, blanks⟩
  rw [List.append_assoc, trim, ← whole]
  exact List.takeWhile_append_dropWhile.symm

/-- Trimming gives a trimmed text. -/
theorem isTrimmed_trim (blank : Char -> Bool) (text : Text) :
    IsTrimmed blank (trim blank text) where
  first c begins := by
    obtain ⟨rest, whole⟩ := trimEnd_prefix blank (trimStart blank text)
    have first : (trimStart blank text).head? = some c := by
      rw [← whole, List.head?_append, ← trim, Option.mem_def.1 begins]
      rfl
    have stays := List.head?_dropWhile_not blank text
    rw [← trimStart, first] at stays
    simpa using stays
  last c ends := by
    refine Bool.eq_false_iff.2 fun trimmed => ?_
    exact getLast?_trimEnd_ne blank (trimStart blank text) trimmed ends

/-- So trimming twice is trimming once. -/
@[simp] theorem trim_trim (blank : Char -> Bool) (text : Text) :
    trim blank (trim blank text) = trim blank text :=
  (isTrimmed_trim blank text).trim_eq

/-- A text with characters to trim on both sides of another one. -/
def Surrounded (blank : Char -> Bool) (inner padded : Text) : Prop :=
  ∃ leading trailing, padded = leading ++ inner ++ trailing ∧
    (∀ c ∈ leading, blank c = true) ∧ ∀ c ∈ trailing, blank c = true

namespace Surrounded

variable {inner padded : Text}

/-- What stands around a text is trimmed with its own blanks. -/
theorem trim_eq (surrounded : Surrounded blank inner padded) :
    trim blank padded = trim blank inner := by
  obtain ⟨leading, trailing, rfl, before, behind⟩ := surrounded
  have start : trimStart blank (leading ++ inner ++ trailing) =
      trimStart blank (inner ++ trailing) := by
    rw [List.append_assoc]
    exact List.dropWhile_append_of_pos before
  rw [trim, trim, start, trimStart, List.dropWhile_append]
  split
  · next nothing =>
      rw [trimStart, List.isEmpty_iff.mp nothing, ← List.append_nil trailing,
        List.dropWhile_append_of_pos behind]
      rfl
  · exact trimEnd_append_blanks behind _

/-- Nothing stands around a text within a trimmed one. -/
theorem eq_of_isTrimmed (surrounded : Surrounded blank inner padded)
    (trimmed : IsTrimmed blank padded) : padded = inner := by
  obtain ⟨leading, trailing, rfl, before, behind⟩ := surrounded
  have noLeading : leading = [] := by
    cases leading with
    | nil => rfl
    | cons c rest =>
        exact absurd (before c List.mem_cons_self) (Bool.eq_false_iff.mp (trimmed.first c rfl))
  have noTrailing : trailing = [] := by
    rcases List.eq_nil_or_concat trailing with nothing | ⟨front, c, spelled⟩
    · exact nothing
    · rw [List.concat_eq_append] at spelled
      subst spelled
      have last := trimmed.last c (by rw [← List.append_assoc, List.getLast?_concat]; rfl)
      exact absurd (behind c (by simp)) (Bool.eq_false_iff.mp last)
  rw [noLeading, noTrailing, List.append_nil, List.nil_append]

end Surrounded

end EditorData.Text

import EditorData.Catalogue.Table
import EditorData.Proofs.Section.Splicing

/-!
# Updating a README again

The section that has been written into a README is found again, so a README that has been updated
can always be updated again. It comes out as it was unless the end marker of the section stands in
the table itself, which is there to be found first. It stands there when a text of an option has it
(`tableEnd_infix_renderTable_iff`), since texts are put into the table as they are.
-/

namespace EditorData

namespace Catalogue

variable {readme updated : Text} {entries : List Entry}

/-- The texts of an option. -/
def Entry.texts (entry : Entry) : List Text :=
  [entry.name, entry.zigType, entry.initializer, entry.description]

/-- Whether a text of an option has the marker that ends the table. -/
def Entry.Marked (entry : Entry) : Prop :=
  ∃ text ∈ entry.texts, tableEnd <:+: text

/-- The end marker begins and ends in angle brackets, which are no blanks. -/
theorem tableEnd_infix_trimmed_iff (text : Text) :
    tableEnd <:+: Text.trimmed text ↔ tableEnd <:+: text :=
  Text.infix_trim_iff (by rintro first ⟨⟩; rfl) (by rintro last ⟨⟩; rfl) text

/-- The end marker stands in the row of an option if it stands in a text of the option. -/
theorem tableEnd_infix_renderRow_iff (entry : Entry) :
    tableEnd <:+: renderRow entry ↔ entry.Marked := by
  have quoted : '\x60' ∉ tableEnd := by decide
  have row : renderRow entry =
      "| ".toList ++ '\x60' :: (Text.trimmed entry.name ++ '\x60' :: (" | ".toList ++ '\x60' ::
        (Text.trimmed entry.zigType ++ '\x60' :: (" | ".toList ++ '\x60' ::
          (Text.trimmed entry.initializer ++ '\x60' :: (" | ".toList ++
            (Text.trimmed entry.description ++ " |\n".toList))))))) := by
    have first : "| \x60".toList = "| ".toList ++ ['\x60'] := rfl
    have middle : "\x60 | \x60".toList = '\x60' :: (" | ".toList ++ ['\x60']) := rfl
    have last : "\x60 | ".toList = '\x60' :: " | ".toList := rfl
    unfold renderRow
    rw [first, middle, last]
    -- Only the way in which the pieces are put together matters from here on.
    generalize "| ".toList = opening
    generalize " | ".toList = between
    generalize " |\n".toList = closing
    simp only [List.append_assoc, List.cons_append, List.nil_append]
  have unmarked (text : Text) (absent : '<' ∉ text) : tableEnd <:+: text ↔ False :=
    iff_of_false (fun held => absent (held.subset (by decide))) id
  have front := unmarked "| ".toList (by decide)
  have between := unmarked " | ".toList (by decide)
  have description : tableEnd <:+:
      " | ".toList ++ (Text.trimmed entry.description ++ " |\n".toList) ↔
        tableEnd <:+: Text.trimmed entry.description :=
    (Text.infix_append_left_iff (by rintro first ⟨⟩; decide)).trans
      (Text.infix_append_right_iff (by rintro last ⟨⟩; decide))
  rw [row]
  simp only [Text.infix_append_cons_iff quoted, front, between, description, false_or,
    tableEnd_infix_trimmed_iff, Entry.Marked, Entry.texts, List.mem_cons, List.not_mem_nil,
    or_false, exists_eq_or_imp, exists_eq_left]

/-- A row ends with a border. -/
theorem exists_renderRow_eq (entry : Entry) :
    ∃ front, renderRow entry = front ++ ['|'] ++ ['\n'] := by
  have ending : " |\n".toList = [' '] ++ ['|'] ++ ['\n'] := rfl
  unfold renderRow
  rw [ending, ← List.append_assoc, ← List.append_assoc]
  exact ⟨_, rfl⟩

/-- The heading ends with a border. -/
theorem exists_tableHeading_eq : ∃ front, tableHeading = front ++ ['|'] ++ ['\n'] :=
  ⟨"\n| Option | Type | Default value | What it Does |\n| --- | --- | --- | --- ".toList, rfl⟩

/-- The table ends with a border. -/
theorem exists_renderTable_eq (entries : List Entry) :
    ∃ front, renderTable entries = front ++ ['|'] ++ ['\n'] := by
  obtain ⟨heading, spelled⟩ := exists_tableHeading_eq
  unfold renderTable
  rcases List.eq_nil_or_concat entries with rfl | ⟨earlier, entry, rfl⟩
  · exact ⟨heading, (List.append_nil _).trans spelled⟩
  · obtain ⟨front, row⟩ := exists_renderRow_eq entry
    refine ⟨tableHeading ++ earlier.flatMap renderRow ++ front, ?_⟩
    generalize tableHeading = heading
    simp [row]

/-- The end marker stands in the rows of options if it stands in a text of one of them. -/
theorem tableEnd_infix_rows_iff (entries : List Entry) :
    tableEnd <:+: entries.flatMap renderRow ↔ ∃ entry ∈ entries, entry.Marked := by
  induction entries with
  | nil => exact iff_of_false (by decide) (by simp)
  | cons entry rest inductionHypothesis =>
      obtain ⟨front, row⟩ := exists_renderRow_eq entry
      have here := tableEnd_infix_renderRow_iff entry
      rw [row] at here
      rw [List.flatMap_cons, row, Text.infix_concat_append_iff (by decide), here,
        inductionHypothesis]
      simp only [List.mem_cons, exists_eq_or_imp]

/-- The end marker stands in the table if it stands in a text of an option. -/
theorem tableEnd_infix_renderTable_iff (entries : List Entry) :
    tableEnd <:+: renderTable entries ↔ ∃ entry ∈ entries, entry.Marked := by
  obtain ⟨heading, spelled⟩ := exists_tableHeading_eq
  have unmarked : ¬ tableEnd <:+: tableHeading := fun held =>
    absurd (held.subset (show '<' ∈ tableEnd by decide)) (by decide)
  rw [spelled] at unmarked
  rw [renderTable, spelled, Text.infix_concat_append_iff (by decide), or_iff_right unmarked]
  exact tableEnd_infix_rows_iff entries

/-- A README that has been updated can be updated again. It comes out as it was unless a text of an
option has the marker that ends the table. -/
theorem updateReadme_again (done : updateReadme readme entries = .ok updated) :
    ∃ again, updateReadme updated entries = .ok again ∧
      (again = updated ↔ ¬ ∃ entry ∈ entries, entry.Marked) := by
  obtain ⟨before, between, after, -, rfl, starts⟩ := Section.replace_ok done
  obtain ⟨front, table⟩ := exists_renderTable_eq entries
  rw [← tableEnd_infix_renderTable_iff, table]
  unfold updateReadme
  rw [table]
  exact Section.replace_again starts (by decide) (by decide)

/-- An option with the marker that ends the table in its description. -/
def markedEntry : Entry :=
  ⟨['a'], tableEnd, "bool".toList, "true".toList⟩

/-- A README that has been updated with such an option comes out differently the next time. -/
theorem updateReadme_marked :
    ∃ updated again, updateReadme (tableStart ++ tableEnd) [markedEntry] = .ok updated ∧
      updateReadme updated [markedEntry] = .ok again ∧ again ≠ updated := by
  have found : (updateReadme (tableStart ++ tableEnd) [markedEntry]).isOk := by decide +kernel
  cases once : updateReadme (tableStart ++ tableEnd) [markedEntry] with
  | error fault =>
      rw [once] at found
      cases found
  | ok updated =>
      obtain ⟨again, twice, same⟩ := updateReadme_again once
      refine ⟨updated, again, rfl, twice, fun equal => same.mp equal ?_⟩
      exact ⟨markedEntry, List.mem_singleton_self _, tableEnd, by simp [Entry.texts, markedEntry],
        List.infix_refl _⟩

/-- The ends of lines in a document are made equal in a section with a border at its end on its own,
if there is no carriage return around it. -/
theorem normalizeNewlines_around {left right : Text} (freeLeft : '\r' ∉ left)
    (freeRight : '\r' ∉ right) (front : Text) :
    Text.normalizeNewlines (left ++ (front ++ ['|'] ++ ['\n']) ++ right) =
      left ++ (Text.normalizeNewlines front ++ ['|'] ++ ['\n']) ++ right := by
  have freeEnd : '\r' ∉ '|' :: '\n' :: right := by simpa using freeRight
  have ending : Text.normalizeNewlines (front ++ '|' :: '\n' :: right) =
      Text.normalizeNewlines front ++ '|' :: '\n' :: right := by
    rw [Text.normalizeNewlines_append front (by simp),
      Text.normalizeNewlines_of_not_mem freeEnd]
  have whole := Text.normalizeNewlines_append_of_not_mem freeLeft (front ++ '|' :: '\n' :: right)
  rw [ending] at whole
  simpa using whole

/-- A README that has been updated can be updated again when it has been read from its file, which
makes the ends of its lines equal. It comes out as it was unless a text of an option has the marker
that ends the table. -/
theorem updateReadme_reread (whole : '\r' ∉ readme)
    (done : updateReadme readme entries = .ok updated) :
    ∃ again, updateReadme (Text.normalizeNewlines updated) entries = .ok again ∧
      (again = updated ↔ ¬ ∃ entry ∈ entries, entry.Marked) := by
  obtain ⟨before, between, after, rfl, rfl, starts⟩ := Section.replace_ok done
  obtain ⟨front, table⟩ := exists_renderTable_eq entries
  simp only [List.mem_append, not_or] at whole
  obtain ⟨⟨⟨⟨freeBefore, -⟩, -⟩, -⟩, freeAfter⟩ := whole
  have freeLeft : '\r' ∉ before ++ tableStart := by
    rw [List.mem_append, not_or]
    exact ⟨freeBefore, by decide⟩
  have freeRight : '\r' ∉ tableEnd ++ after := by
    rw [List.mem_append, not_or]
    exact ⟨by decide, freeAfter⟩
  have read : Text.normalizeNewlines
      (before ++ tableStart ++ renderTable entries ++ tableEnd ++ after) =
        before ++ tableStart ++ (Text.normalizeNewlines front ++ ['|'] ++ ['\n']) ++
          tableEnd ++ after := by
    rw [table, List.append_assoc _ tableEnd, normalizeNewlines_around freeLeft freeRight,
      ← List.append_assoc _ tableEnd]
  have kept : tableEnd <:+: Text.normalizeNewlines front ++ ['|'] ++ ['\n'] ↔
      tableEnd <:+: renderTable entries := by
    have alone := normalizeNewlines_around List.not_mem_nil List.not_mem_nil front
    rw [List.nil_append, List.append_nil, List.nil_append, List.append_nil] at alone
    rw [← alone, Text.infix_normalizeNewlines_iff (by decide) (by decide), table]
  rw [← tableEnd_infix_renderTable_iff, ← kept, read]
  exact Section.replace_again starts (by decide) (by decide)

end Catalogue

end EditorData

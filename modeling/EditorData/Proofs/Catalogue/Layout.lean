import EditorData.Catalogue.ConfigFile
import EditorData.Proofs.Catalogue.Stability
import EditorData.Proofs.Text.FilledLines
import Mathlib.Data.List.Basic

/-!
# One option, one entry

The texts of an option are put into the Zig file and into the table as they are, without the blanks
at their ends. Between the head and the foot of the Zig file there are a comment and a field for
each option (`LaidOut`) exactly if no text of an option has a line feed inside, and the table has a
row of four cells for each option (`Tabulated`) exactly if moreover none has a bar
(`rendered_apart_iff`).
-/

namespace EditorData.Catalogue

variable {entries : List Entry} {entry : Entry}

/-- No text of an option goes on in a second line. -/
def Entry.OneLine (entry : Entry) : Prop :=
  ∀ text ∈ entry.texts, '\n' ∉ Text.trimmed text

/-- No text of an option has a border of a table in it. -/
def Entry.OneCell (entry : Entry) : Prop :=
  ∀ text ∈ entry.texts, '|' ∉ Text.trimmed text

instance : DecidablePred Entry.OneLine := fun entry =>
  inferInstanceAs (Decidable (∀ text ∈ entry.texts, '\n' ∉ Text.trimmed text))

instance : DecidablePred Entry.OneCell := fun entry =>
  inferInstanceAs (Decidable (∀ text ∈ entry.texts, '|' ∉ Text.trimmed text))

section ConfigFile

/-- The comment with the description of an option. -/
def commentLine (entry : Entry) : Text :=
  "/// ".toList ++ Text.trimmed entry.description

/-- The field of an option. -/
def fieldLine (entry : Entry) : Text :=
  Text.trimmed entry.name ++ ": ".toList ++ Text.trimmed entry.zigType ++ " = ".toList ++
    Text.trimmed entry.initializer ++ ",".toList

/-- The lines of the head of the Zig file. -/
def headerLines : List Text :=
  (Text.lines configFileHeader).dropLast

/-- Between the head and the foot of the Zig file there are, besides empty lines, for each option in
order a comment and then its field. -/
def LaidOut (entries : List Entry) (comments : List Text) : Prop :=
  comments.length = entries.length ∧ (∀ comment ∈ comments, "/// ".toList <+: comment) ∧
    ∃ between, Text.lines (renderConfigFile entries) =
        headerLines ++ between ++ Text.lines configFileFooter ∧
      Text.filled between = (List.zipWith (fun comment entry => [comment, fieldLine entry])
        comments entries).flatten

/-- The lines of an option: an empty one, those of its comment and those of its field. -/
def entryLines (entry : Entry) : List Text :=
  [] :: Text.lines (commentLine entry) ++ Text.lines (fieldLine entry)

/-- An option is written as an empty line, a comment and a field. -/
theorem renderField_eq_lines (entry : Entry) :
    renderField entry = '\n' :: (commentLine entry ++ '\n' :: fieldLine entry) ++ ['\n'] := by
  have comment : "\n/// ".toList = '\n' :: "/// ".toList := rfl
  have ending : ",\n".toList = ",".toList ++ ['\n'] := rfl
  have lineFeed : "\n".toList = ['\n'] := rfl
  unfold commentLine fieldLine
  rw [renderField_eq, comment, ending, lineFeed]
  simp only [List.append_assoc, List.cons_append, List.nil_append]

/-- The lines of the Zig file, whatever the texts of the options. -/
theorem lines_renderConfigFile (entries : List Entry) :
    Text.lines (renderConfigFile entries) =
      headerLines ++ entries.flatMap entryLines ++ Text.lines configFileFooter := by
  have each : (fun entry => Text.lines ('\n' :: (commentLine entry ++ '\n' :: fieldLine entry))) =
      entryLines := by
    funext entry
    rw [Text.lines, Text.parts, if_pos rfl, Text.parts_append]
    rfl
  have header : configFileHeader = configFileHeader.dropLast ++ ['\n'] := rfl
  rw [renderConfigFile_eq, funext renderField_eq_lines, List.append_assoc, headerLines, header,
    Text.lines_append, Text.lines_flatMap_append, each, List.append_assoc]

/-- A comment is no line feed at either end. -/
theorem isTrimmed_commentLine (entry : Entry) : Text.IsTrimmed (· == '\n') (commentLine entry) :=
  .append (by decide) (Text.isTrimmed_lineFeed_trimmed entry.description)

/-- A field is no line feed at either end. -/
theorem isTrimmed_fieldLine (entry : Entry) : Text.IsTrimmed (· == '\n') (fieldLine entry) :=
  have trimmed := Text.isTrimmed_lineFeed_trimmed
  .append (.append (.append (.append (.append (trimmed entry.name) (by decide))
    (trimmed entry.zigType)) (by decide)) (trimmed entry.initializer)) (by decide)

/-- A comment is not empty. -/
theorem commentLine_ne_nil (entry : Entry) : commentLine entry ≠ [] :=
  List.cons_ne_nil '/' _

/-- A field is not empty. -/
theorem fieldLine_ne_nil (entry : Entry) : fieldLine entry ≠ [] :=
  List.append_ne_nil_of_right_ne_nil _ (List.cons_ne_nil ',' [])

/-- The texts of an option are in one line exactly if its comment and its field are. -/
theorem oneLine_iff : entry.OneLine ↔ '\n' ∉ commentLine entry ∧ '\n' ∉ fieldLine entry := by
  have free (text : Text) (absent : '\n' ∉ text) : '\n' ∈ text ↔ False := iff_of_false absent id
  have slashes := free "/// ".toList (by decide)
  have colon := free ": ".toList (by decide)
  have equals := free " = ".toList (by decide)
  have comma := free ",".toList (by decide)
  simp only [Entry.OneLine, Entry.texts, List.forall_mem_cons, commentLine, fieldLine,
    List.mem_append, slashes, colon, equals, comma, not_or, not_false_eq_true, true_and, and_true]
  constructor
  · rintro ⟨name, type, initializer, description, -⟩
    exact ⟨description, ⟨name, type⟩, initializer⟩
  · rintro ⟨description, ⟨name, type⟩, initializer⟩
    exact ⟨name, type, initializer, description, List.forall_mem_nil _⟩

/-- The lines of an option that are not empty are those of its comment and of its field. -/
theorem filled_entryLines (entry : Entry) :
    Text.filled (entryLines entry) = Text.filled (Text.lines (commentLine entry)) ++
      Text.filled (Text.lines (fieldLine entry)) :=
  List.filter_append _ _

/-- An option has at least two lines that are not empty, and only two exactly if its texts are in
one line each. -/
theorem length_filled_entryLines (entry : Entry) :
    2 ≤ (Text.filled (entryLines entry)).length ∧
      ((Text.filled (entryLines entry)).length = 2 ↔ entry.OneLine) := by
  obtain ⟨someComment, oneComment⟩ := Text.length_filled_lines (isTrimmed_commentLine entry)
    (commentLine_ne_nil entry)
  obtain ⟨someField, oneField⟩ := Text.length_filled_lines (isTrimmed_fieldLine entry)
    (fieldLine_ne_nil entry)
  rw [oneLine_iff, ← oneComment, ← oneField, filled_entryLines, List.length_append]
  exact ⟨by omega, by omega⟩

/-- Options whose texts are in one line each are laid out with their descriptions as comments. -/
theorem laidOut_of_oneLine (oneLine : ∀ entry ∈ entries, entry.OneLine) :
    LaidOut entries (entries.map commentLine) := by
  refine ⟨List.length_map _, ?_, entries.flatMap entryLines, lines_renderConfigFile entries, ?_⟩
  · intro comment member
    obtain ⟨entry, -, rfl⟩ := List.mem_map.mp member
    exact List.prefix_append _ _
  · induction entries with
    | nil => rfl
    | cons entry others inductionHypothesis =>
        obtain ⟨first, later⟩ := List.forall_mem_cons.mp oneLine
        obtain ⟨comment, field⟩ := oneLine_iff.mp first
        have here : Text.filled (entryLines entry) = [commentLine entry, fieldLine entry] := by
          rw [filled_entryLines, Text.filled_lines_of_not_mem (commentLine_ne_nil entry) comment,
            Text.filled_lines_of_not_mem (fieldLine_ne_nil entry) field]
          rfl
        rw [List.flatMap_cons, Text.filled, List.filter_append, ← Text.filled, ← Text.filled, here,
          inductionHypothesis later]
        rfl

/-- A comment and a field for each option are two lines for each. -/
theorem length_commentsAndFields {comments : List Text}
    (count : comments.length = entries.length) :
    (List.zipWith (fun comment entry => [comment, fieldLine entry])
      comments entries).flatten.length = 2 * entries.length := by
  induction comments generalizing entries with
  | nil =>
      rw [List.eq_nil_of_length_eq_zero count.symm]
      rfl
  | cons comment comments inductionHypothesis =>
      cases entries with
      | nil => cases count
      | cons entry entries =>
          have behind := inductionHypothesis (Nat.succ.inj count)
          simp only [List.zipWith_cons_cons, List.flatten_cons, List.length_append, behind,
            List.length_cons, List.length_nil]
          omega

/-- Options are laid out only if their texts are in one line each, since every other option has a
third line that is not empty. -/
theorem oneLine_of_laidOut {comments : List Text} (laidOut : LaidOut entries comments) :
    ∀ entry ∈ entries, entry.OneLine := by
  obtain ⟨count, -, between, whole, filled⟩ := laidOut
  rw [lines_renderConfigFile, List.append_cancel_right_eq, List.append_cancel_left_eq] at whole
  have total : (entries.flatMap fun entry => Text.filled (entryLines entry)).length =
      2 * entries.length := by
    have pieces : Text.filled between = entries.flatMap fun entry =>
        Text.filled (entryLines entry) := by
      rw [← whole]
      exact List.filter_flatMap
    rw [← pieces, filled, length_commentsAndFields count]
  have each := Text.length_eq_two_of_flatMap
    (fun entry _ => (length_filled_entryLines entry).1) total
  exact fun entry member => (length_filled_entryLines entry).2.mp (each entry member)

end ConfigFile

section Table

/-- The cells of an option: its name, type and initializer as code, and its description. -/
def rowCells (entry : Entry) : List Text :=
  [" \x60".toList ++ Text.trimmed entry.name ++ "\x60 ".toList,
    " \x60".toList ++ Text.trimmed entry.zigType ++ "\x60 ".toList,
    " \x60".toList ++ Text.trimmed entry.initializer ++ "\x60 ".toList,
    " ".toList ++ Text.trimmed entry.description ++ " ".toList]

/-- The cells of an option between two outer borders, where nothing is. -/
def borderedCells (entry : Entry) : List Text :=
  [] :: rowCells entry ++ [[]]

/-- The row of an option, without the end of its line. -/
def rowLine (entry : Entry) : Text :=
  Text.joined ['|'] (borderedCells entry)

/-- The two lines of the heading, behind an empty one. -/
def headingLines : List Text :=
  (Text.lines tableHeading).dropLast

/-- What is between the borders of a row if a bar behind a backslash is no border but text. -/
def markdownCells : Text -> List Text
  | [] => [[]]
  | '\\' :: '|' :: rest => (markdownCells rest).modifyHead ('|' :: ·)
  | '|' :: rest => [] :: markdownCells rest
  | c :: rest => (markdownCells rest).modifyHead (c :: ·)

example : markdownCells "| a \\| b | c |".toList =
    [[], " a | b ".toList, " c ".toList, []] := by decide

/-- The table has a row for each option in order, which is read as the four cells of the option
between two outer borders. -/
def Tabulated (cells : Text -> List Text) (entries : List Entry) : Prop :=
  ∃ rows, Text.lines (renderTable entries) = headingLines ++ rows ++ [[]] ∧
    rows.map cells = entries.map borderedCells

/-- What is common to the ways in which a row is read. A bar at the beginning and a bar behind a
space are borders, and a text has none exactly if it has no bar. -/
structure ReadsCells (cells : Text -> List Text) : Prop where
  within : ∀ row, ∀ cell ∈ cells row, cell ⊆ row
  outer : ∀ row, cells ('|' :: row) = [] :: cells row
  inner : ∀ left right, cells (left ++ ' ' :: '|' :: right) = cells (left ++ [' ']) ++ cells right
  single : ∀ row, cells row = [row] ↔ '|' ∉ row
  some : ∀ row, cells row ≠ []

/-- Every bar may be a border. -/
theorem readsCells_parts : ReadsCells (Text.parts '|') where
  within row cell member := Text.joined_parts '|' row ▸ Text.subset_joined member
  outer row := if_pos rfl
  inner left right := by
    rw [← Text.parts_append, List.append_assoc]
    rfl
  single row :=
    ⟨fun alone => Text.separator_not_mem_part (alone ▸ List.mem_singleton_self row),
      Text.parts_of_not_mem⟩
  some := Text.parts_ne_nil '|'

/-- A character that is neither a bar nor a backslash in front of one stays in its cell. -/
theorem markdownCells_cons {c : Char} {rest : Text} (noBar : c ≠ '|')
    (noEscape : ¬ (c = '\\' ∧ rest.head? = some '|')) :
    markdownCells (c :: rest) = (markdownCells rest).modifyHead (c :: ·) :=
  markdownCells.eq_4 c rest
    (fun _ same begins => noEscape ⟨same, congrArg List.head? begins⟩) noBar

/-- There is something between the borders of a row. -/
theorem markdownCells_ne_nil (row : Text) : markdownCells row ≠ [] := by
  fun_induction markdownCells row with
  | case1 => exact List.cons_ne_nil [] []
  | case2 rest inductionHypothesis =>
      rw [ne_eq, List.modifyHead_eq_nil_iff]
      exact inductionHypothesis
  | case3 rest => exact List.cons_ne_nil [] _
  | case4 c rest _ _ inductionHypothesis =>
      rw [ne_eq, List.modifyHead_eq_nil_iff]
      exact inductionHypothesis

/-- What is between the borders of a row comes from the row. -/
theorem cell_subset_of_mem_markdownCells {row : Text} :
    ∀ cell ∈ markdownCells row, cell ⊆ row := by
  have grows (c : Char) {rest : Text} {cells : List Text} (within : ∀ cell ∈ cells, cell ⊆ rest) :
      ∀ cell ∈ cells.modifyHead (c :: ·), cell ⊆ c :: rest := by
    cases cells with
    | nil => nofun
    | cons first later =>
        obtain ⟨here, others⟩ := List.forall_mem_cons.mp within
        exact List.forall_mem_cons.mpr ⟨List.cons_subset_cons c here,
          fun cell member => List.subset_cons_of_subset c (others cell member)⟩
  fun_induction markdownCells row with
  | case1 => exact List.forall_mem_singleton.mpr (List.nil_subset [])
  | case2 rest inductionHypothesis =>
      intro cell member
      exact List.subset_cons_of_subset '\\' (grows '|' inductionHypothesis cell member)
  | case3 rest inductionHypothesis =>
      refine List.forall_mem_cons.mpr ⟨List.nil_subset _, fun cell member => ?_⟩
      exact List.subset_cons_of_subset '|' (inductionHypothesis cell member)
  | case4 c rest _ _ inductionHypothesis => exact grows c inductionHypothesis

/-- A bar behind a space is a border. -/
theorem markdownCells_append (left right : Text) :
    markdownCells (left ++ ' ' :: '|' :: right) =
      markdownCells (left ++ [' ']) ++ markdownCells right := by
  have moved (c : Char) {front : List Text} (some : front ≠ []) (behind : List Text) :
      (front ++ behind).modifyHead (c :: ·) = front.modifyHead (c :: ·) ++ behind := by
    cases front with
    | nil => exact absurd rfl some
    | cons first later => rfl
  fun_induction markdownCells left with
  | case1 => rfl
  | case2 rest inductionHypothesis =>
      simp only [List.cons_append, markdownCells, inductionHypothesis]
      exact moved '|' (markdownCells_ne_nil _) _
  | case3 rest inductionHypothesis =>
      simp only [List.cons_append, markdownCells, inductionHypothesis]
  | case4 c rest noEscape noBar inductionHypothesis =>
      -- What is put behind the rest begins with a space, so it makes no bar into text.
      have stays (behind : Text) : ¬ (c = '\\' ∧ (rest ++ ' ' :: behind).head? = some '|') := by
        rintro ⟨same, begins⟩
        cases rest with
        | nil => cases begins
        | cons d rest =>
            cases begins
            exact noEscape rest same rfl
      rw [List.cons_append, List.cons_append, markdownCells_cons noBar (stays _),
        markdownCells_cons noBar (stays []), inductionHypothesis]
      exact moved c (markdownCells_ne_nil _) _

/-- A text is read as itself exactly if it has no bar. -/
theorem markdownCells_eq_singleton_iff {row : Text} : markdownCells row = [row] ↔ '|' ∉ row := by
  have alone (c : Char) {rest : Text} :
      (markdownCells rest).modifyHead (c :: ·) = [c :: rest] ↔ markdownCells rest = [rest] := by
    cases markdownCells rest with
    | nil => exact iff_of_false nofun nofun
    | cons first later => simp
  fun_induction markdownCells row with
  | case1 => exact iff_of_true rfl List.not_mem_nil
  | case2 rest =>
      refine iff_of_false (fun whole => ?_) (fun free => free (by simp))
      cases found : markdownCells rest with
      | nil => exact markdownCells_ne_nil rest found
      | cons first later =>
          rw [found] at whole
          exact absurd (List.cons.inj (List.cons.inj whole).1).1 (by decide)
  | case3 rest => exact iff_of_false nofun fun free => free List.mem_cons_self
  | case4 c rest _ noBar inductionHypothesis =>
      refine (alone c).trans (inductionHypothesis.trans ?_)
      rw [List.mem_cons, not_or]
      exact ⟨fun free => ⟨fun same => noBar same.symm, free⟩, And.right⟩

/-- Bars behind backslashes may be text. -/
theorem readsCells_markdownCells : ReadsCells markdownCells where
  within _ := cell_subset_of_mem_markdownCells
  outer _ := rfl
  inner := markdownCells_append
  single _ := markdownCells_eq_singleton_iff
  some := markdownCells_ne_nil

/-- A row ends with its line. -/
theorem renderRow_eq (entry : Entry) : renderRow entry = rowLine entry ++ ['\n'] := by
  have opening : "| \x60".toList = '|' :: " \x60".toList := rfl
  have between : "\x60 | \x60".toList = "\x60 ".toList ++ '|' :: " \x60".toList := rfl
  have last : "\x60 | ".toList = "\x60 ".toList ++ '|' :: " ".toList := rfl
  have closing : " |\n".toList = " ".toList ++ ['|', '\n'] := rfl
  unfold renderRow rowLine borderedCells rowCells
  rw [opening, between, last, closing]
  simp only [Text.joined, List.append_assoc, List.cons_append, List.nil_append]

/-- The lines of the table, whatever the texts of the options. -/
theorem lines_renderTable (entries : List Entry) :
    Text.lines (renderTable entries) =
      headingLines ++ entries.flatMap (fun entry => Text.lines (rowLine entry)) ++ [[]] := by
  have heading : tableHeading = tableHeading.dropLast ++ ['\n'] := rfl
  rw [renderTable, funext renderRow_eq, ← List.append_nil (List.flatMap _ entries), headingLines,
    heading, Text.lines_append, Text.lines_flatMap_append, List.append_assoc]
  rfl

/-- A character other than those around the texts is in no cell exactly if it is in no text. -/
theorem not_mem_rowCells_iff {c : Char} (noSpace : c ≠ ' ') (noMark : c ≠ '\x60') :
    (∀ cell ∈ rowCells entry, c ∉ cell) ↔ ∀ text ∈ entry.texts, c ∉ Text.trimmed text := by
  have opening : c ∈ " \x60".toList ↔ False := iff_of_false (by simp [noSpace, noMark]) id
  have closing : c ∈ "\x60 ".toList ↔ False := iff_of_false (by simp [noSpace, noMark]) id
  have space : c ∈ " ".toList ↔ False := iff_of_false (by simp [noSpace]) id
  simp only [rowCells, Entry.texts, List.forall_mem_cons, List.mem_append, opening, closing, space,
    false_or, or_false, List.not_mem_nil, false_implies, implies_true]

/-- The texts of an option are in one line exactly if its row is. -/
theorem lines_rowLine (oneLine : entry.OneLine) : Text.lines (rowLine entry) = [rowLine entry] := by
  refine Text.parts_of_not_mem fun member => ?_
  rcases Text.mem_joined member with same | ⟨cell, held, within⟩
  · cases same
  · rw [borderedCells, List.cons_append, List.mem_cons, List.mem_append,
      List.mem_singleton] at held
    rcases held with rfl | inner | rfl
    · cases within
    · exact (not_mem_rowCells_iff (by decide) (by decide)).mpr oneLine cell inner within
    · cases within

/-- Pieces that together are the list itself are its items. -/
theorem eq_singleton_of_flatMap {α : Type} {pieces : α -> List α} {list : List α}
    (some : ∀ item, pieces item ≠ []) (same : list.flatMap pieces = list) :
    ∀ item ∈ list, pieces item = [item] := by
  have bound (list : List α) : list.length ≤ (list.flatMap pieces).length := by
    induction list with
    | nil => exact Nat.le_refl 0
    | cons item rest inductionHypothesis =>
        have first := List.length_pos_iff.mpr (some item)
        rw [List.flatMap_cons, List.length_append, List.length_cons]
        omega
  induction list with
  | nil => nofun
  | cons item rest inductionHypothesis =>
      rw [List.flatMap_cons] at same
      cases found : pieces item with
      | nil => exact absurd found (some item)
      | cons first others =>
          rw [found, List.cons_append] at same
          obtain ⟨rfl, behind⟩ := List.cons.inj same
          have lengths := congrArg List.length behind
          rw [List.length_append] at lengths
          have few := bound rest
          obtain rfl : others = [] := List.eq_nil_of_length_eq_zero (by omega)
          exact List.forall_mem_cons.mpr ⟨found, inductionHypothesis behind⟩

section Reading

variable {cells : Text -> List Text}

/-- Cells that end in a space are read one after the other, up to the border at the end. -/
theorem ReadsCells.joined_concat (reads : ReadsCells cells) {list : List Text}
    (spaced : ∀ cell ∈ list, ∃ front, cell = front ++ [' ']) :
    cells (Text.joined ['|'] (list ++ [[]])) = list.flatMap cells ++ [[]] := by
  induction list with
  | nil => exact (reads.single []).mpr List.not_mem_nil
  | cons cell rest inductionHypothesis =>
      obtain ⟨⟨front, rfl⟩, later⟩ := List.forall_mem_cons.mp spaced
      have further : rest ++ [[]] ≠ [] := List.append_ne_nil_of_right_ne_nil rest nofun
      have split := reads.inner front (Text.joined ['|'] (rest ++ [[]]))
      rw [List.cons_append, Text.joined_cons_of_ne_nil further, List.flatMap_cons,
        List.append_assoc (cells _), ← inductionHypothesis later, ← split]
      simp only [List.append_assoc, List.cons_append, List.nil_append]

/-- A row is read as its cells, each of which may be read as several. -/
theorem ReadsCells.rowLine (reads : ReadsCells cells) (entry : Entry) :
    cells (rowLine entry) = [] :: (rowCells entry).flatMap cells ++ [[]] := by
  have spaced : ∀ cell ∈ rowCells entry, ∃ front, cell = front ++ [' '] := by
    have code : "\x60 ".toList = ['\x60'] ++ [' '] := rfl
    simp only [rowCells, List.forall_mem_cons, code, ← List.append_assoc]
    exact ⟨⟨_, rfl⟩, ⟨_, rfl⟩, ⟨_, rfl⟩, ⟨_, rfl⟩, nofun⟩
  have outer := reads.outer (Text.joined ['|'] (rowCells entry ++ [[]]))
  rw [reads.joined_concat spaced] at outer
  exact outer

/-- A row is read as the cells of the option exactly if no text of the option has a bar. -/
theorem ReadsCells.rowLine_eq_iff (reads : ReadsCells cells) :
    cells (Catalogue.rowLine entry) = borderedCells entry ↔ entry.OneCell := by
  rw [reads.rowLine, borderedCells, List.cons_append, List.cons_append, List.cons_inj_right,
    List.append_cancel_right_eq, Entry.OneCell,
    ← not_mem_rowCells_iff (by decide) (by decide)]
  constructor
  · intro same cell member
    exact (reads.single cell).mp (eq_singleton_of_flatMap reads.some same cell member)
  · intro free
    rw [List.flatMap_congr fun cell member => (reads.single cell).mpr (free cell member)]
    exact List.flatMap_singleton' _

/-- The table has a row of four cells for each option exactly if no text of an option has a line
feed or a bar. -/
theorem ReadsCells.tabulated_iff (reads : ReadsCells cells) :
    Tabulated cells entries ↔ ∀ entry ∈ entries, entry.OneLine ∧ entry.OneCell := by
  have rowsOf (oneLine : ∀ entry ∈ entries, entry.OneLine) :
      Text.lines (renderTable entries) =
        headingLines ++ entries.map Catalogue.rowLine ++ [[]] := by
    rw [lines_renderTable, List.flatMap_congr fun entry member =>
      lines_rowLine (oneLine entry member), ← List.map_eq_flatMap]
  constructor
  · rintro ⟨rows, whole, read⟩
    have oneLine : ∀ entry ∈ entries, entry.OneLine := by
      intro entry member
      have bordered : borderedCells entry ∈ rows.map cells := read ▸ List.mem_map_of_mem member
      obtain ⟨row, held, same⟩ := List.mem_map.mp bordered
      have free : '\n' ∉ row := by
        have line : row ∈ Text.lines (renderTable entries) := by
          rw [whole]
          exact List.mem_append_left _ (List.mem_append_right _ held)
        exact Text.separator_not_mem_part line
      refine (not_mem_rowCells_iff (by decide) (by decide)).mp fun cell inner within => ?_
      have read : cell ∈ cells row := by
        rw [same]
        exact List.mem_cons_of_mem _ (List.mem_append_left _ inner)
      exact free (reads.within row cell read within)
    rw [rowsOf oneLine, List.append_cancel_right_eq, List.append_cancel_left_eq] at whole
    rw [← whole, List.map_map] at read
    exact fun entry member => ⟨oneLine entry member,
      reads.rowLine_eq_iff.mp (List.map_inj_left.mp read entry member)⟩
  · intro apart
    refine ⟨entries.map Catalogue.rowLine, rowsOf fun entry member => (apart entry member).1, ?_⟩
    rw [List.map_map]
    exact List.map_congr_left fun entry member => reads.rowLine_eq_iff.mpr (apart entry member).2

end Reading

end Table

/-- Every option has its own entry exactly if its texts stay in their places. In the Zig file there
are a comment and a field for each option, and then the comment is its description, exactly if no
text of an option has a line feed inside. In the table there is a row of four cells for each option
exactly if moreover no text has a bar, whether or not a backslash in front of a bar counts. -/
theorem rendered_apart_iff (entries : List Entry) :
    ((∃ comments, LaidOut entries comments) ↔ ∀ entry ∈ entries, entry.OneLine) ∧
    (LaidOut entries (entries.map commentLine) ↔ ∀ entry ∈ entries, entry.OneLine) ∧
    (Tabulated (Text.parts '|') entries ↔ ∀ entry ∈ entries, entry.OneLine ∧ entry.OneCell) ∧
    (Tabulated markdownCells entries ↔ ∀ entry ∈ entries, entry.OneLine ∧ entry.OneCell) := by
  refine ⟨⟨?_, ?_⟩, ⟨oneLine_of_laidOut, laidOut_of_oneLine⟩, readsCells_parts.tabulated_iff,
    readsCells_markdownCells.tabulated_iff⟩
  · rintro ⟨comments, laidOut⟩
    exact oneLine_of_laidOut laidOut
  · intro oneLine
    exact ⟨entries.map commentLine, laidOut_of_oneLine oneLine⟩

/-- Options with blanks around their texts, one of them a line feed. -/
def spacedOptions : List Entry :=
  [⟨"limit".toList, " Most bytes\n".toList, "usize".toList, "12".toList⟩,
    ⟨" path ".toList, "Where \x60zig\x60 is".toList, "?[]const u8".toList, "null".toList⟩]

/-- What is around the texts of options does not matter. -/
theorem rendered_apart_spacedOptions :
    LaidOut spacedOptions (spacedOptions.map commentLine) ∧
      Tabulated (Text.parts '|') spacedOptions ∧ Tabulated markdownCells spacedOptions := by
  obtain ⟨-, laidOut, tabulated, markdown⟩ := rendered_apart_iff spacedOptions
  have apart : ∀ entry ∈ spacedOptions, entry.OneLine ∧ entry.OneCell := by decide +kernel
  exact ⟨laidOut.mpr fun entry member => (apart entry member).1, tabulated.mpr apart,
    markdown.mpr apart⟩

/-- An option with a line feed and a bar in its description. -/
def tornEntry : Entry :=
  ⟨"a".toList, "One.\nTwo | three".toList, "bool".toList, "true".toList⟩

/-- The second line of a description is neither a comment nor a field in the Zig file, and a second
row in the table. -/
theorem rendered_torn :
    (∀ comments, ¬ LaidOut [tornEntry] comments) ∧
    Text.lines (renderConfigFile [tornEntry]) = headerLines ++
      [[], "/// One.".toList, "Two | three".toList, "a: bool = true,".toList] ++
        Text.lines configFileFooter ∧
    ¬ Tabulated (Text.parts '|') [tornEntry] ∧ ¬ Tabulated markdownCells [tornEntry] ∧
    Text.lines (renderTable [tornEntry]) = headingLines ++
      ["| \x60a\x60 | \x60bool\x60 | \x60true\x60 | One.".toList, "Two | three |".toList] ++
        [[]] := by
  have torn : ¬ ∀ entry ∈ [tornEntry], entry.OneLine := by decide +kernel
  refine ⟨fun _ laidOut => torn (oneLine_of_laidOut laidOut), by decide +kernel,
    fun tabulated => torn fun entry member => ?_, fun tabulated => torn fun entry member => ?_,
    by decide +kernel⟩
  · exact (readsCells_parts.tabulated_iff.mp tabulated entry member).1
  · exact (readsCells_markdownCells.tabulated_iff.mp tabulated entry member).1

end EditorData.Catalogue

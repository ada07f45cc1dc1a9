import EditorData.Proofs.Markup.Searching
import EditorData.Proofs.Text.Lines
import EditorData.Version

/-!
# The grammar of versions

A semantic version is three numbers, with the labels of a pre-release and of a build (`Semantic`).
Which texts are spelled like this depends on what counts as a digit (`Semantic.Spelled`). The marks
between the pieces stand in none of them, so a check that cuts at the first mark of each kind
accepts exactly the texts that are spelled with the digits of any script (`isSemantic_iff`). The
grammar asks for the digits from zero to nine alone and for nothing behind the version, so what is
accepted belongs to it exactly if it has no other characters (`grammatical_iff`).
-/

namespace EditorData.Version

/-- Numbers without leading zeros, with any digits of a class from the second one on. -/
inductive IsNumeral (digit : Char -> Bool) : Text -> Prop
  | zero : IsNumeral digit ['0']
  | leading {first : Char} {rest : Text} (low : '1' ≤ first) (high : first ≤ '9')
      (digits : ∀ c ∈ rest, digit c = true) : IsNumeral digit (first :: rest)

/-- Labels that can stand behind a mark: one at least, and none of them empty. -/
structure AreLabels (labels : List Text) : Prop where
  present : labels ≠ []
  nonempty : ∀ label ∈ labels, label ≠ []
  characters : ∀ label ∈ labels, ∀ c ∈ label, isLabelChar c = true

/-- The pieces of a semantic version. -/
structure Semantic where
  major : Text
  minor : Text
  patch : Text
  preRelease : Option (List Text)
  build : Option (List Text)

/-- Labels behind their mark, if there are any. -/
def marked (mark : Char) : Option (List Text) -> Text
  | none => []
  | some labels => mark :: Text.joined ['.'] labels

namespace Semantic

/-- The numbers of a version. -/
def numbers (version : Semantic) : List Text :=
  [version.major, version.minor, version.patch]

/-- The text of a version. -/
def text (version : Semantic) : Text :=
  Text.joined ['.'] version.numbers ++ marked '-' version.preRelease ++ marked '+' version.build

/-- A version of which the numbers are written with the digits of a class. -/
structure Spelled (digit : Char -> Bool) (version : Semantic) : Prop where
  numbers : ∀ number ∈ version.numbers, IsNumeral digit number
  preRelease : ∀ labels ∈ version.preRelease, AreLabels labels
  build : ∀ labels ∈ version.build, AreLabels labels

end Semantic

/-- The versions of the grammar: the word for development, and semantic versions written with the
digits from zero to nine. -/
def Grammatical (text : Text) : Prop :=
  text = master ∨ ∃ version : Semantic, version.Spelled Char.isDigit ∧ version.text = text

/-- The characters that versions are made of. -/
def isVersionChar (c : Char) : Bool :=
  isLabelChar c || c == '.' || c == '+'

section Characters

variable {c : Char} {text : Text}

/-- The word for development is made of the characters of versions. -/
theorem isVersionChar_of_mem_master (member : c ∈ master) : isVersionChar c = true := by
  have all : master.all isVersionChar = true := by decide
  exact List.all_eq_true.1 all c member

/-- A digit from zero to nine may stand in a label. -/
theorem isLabelChar_of_isDigit (ascii : c.isDigit = true) : isLabelChar c = true := by
  have digit : ('0' ≤ c && c ≤ '9') = true := ascii
  rw [isLabelChar, digit, Bool.true_or, Bool.true_or, Bool.true_or]

/-- The characters of versions are those of labels, dots and plus signs. -/
theorem isVersionChar_iff : isVersionChar c = true ↔ isLabelChar c = true ∨ c = '.' ∨ c = '+' := by
  simp only [isVersionChar, Bool.or_eq_true, beq_iff_eq, or_assoc]

/-- A digit from zero to nine may stand in a version. -/
theorem isVersionChar_of_isDigit (ascii : c.isDigit = true) : isVersionChar c = true :=
  isVersionChar_iff.2 (.inl (isLabelChar_of_isDigit ascii))

/-- The characters of versions are in the first part of the code. -/
theorem toNat_lt_of_isVersionChar (allowed : isVersionChar c = true) : c.toNat < 128 := by
  simp only [isVersionChar, isLabelChar, Bool.or_eq_true, Bool.and_eq_true, decide_eq_true_eq,
    beq_iff_eq] at allowed
  rcases allowed with (((((digit | small) | capital) | rfl) | rfl) | rfl)
  · exact Nat.lt_of_le_of_lt digit.2 (by decide)
  · exact Nat.lt_of_le_of_lt small.2 (by decide)
  · exact Nat.lt_of_le_of_lt capital.2 (by decide)
  all_goals decide

/-- In the first part of the code, the digits of all scripts are those from zero to nine. -/
theorem isDigit_iff_of_lt (early : c.toNat < 128) : Text.isDigit c = true ↔ c.isDigit = true := by
  have all : ∀ code < 128,
      (Text.isDigit (Char.ofNat code) = true ↔ (Char.ofNat code).isDigit = true) := by
    decide +kernel
  rw [← Char.ofNat_toNat c]
  exact all c.toNat early

/-- The digits from zero to nine are among the digits of all scripts. -/
theorem isDigit_of_ascii (ascii : c.isDigit = true) : Text.isDigit c = true := by
  have early := toNat_lt_of_isVersionChar (isVersionChar_of_isDigit ascii)
  exact (isDigit_iff_of_lt early).2 ascii

namespace IsNumeral

variable {digit other : Char -> Bool}

/-- A numeral has digits of its class, and digits from zero to nine. -/
theorem digit_of_mem (numeral : IsNumeral digit text) (member : c ∈ text) :
    c.isDigit = true ∨ digit c = true := by
  cases numeral with
  | zero => exact .inl (by rw [List.mem_singleton.1 member]; decide)
  | leading low high digits =>
      rcases List.mem_cons.1 member with rfl | later
      · have above : '0' ≤ c := Nat.le_trans (by decide) low
        exact .inl (Bool.and_eq_true_iff.2 ⟨decide_eq_true above, decide_eq_true high⟩)
      · exact .inr (digits c later)

/-- A numeral is one of another class too if its digits are. -/
theorem of_digits (numeral : IsNumeral digit text)
    (same : ∀ c ∈ text, digit c = true → other c = true) : IsNumeral other text := by
  cases numeral with
  | zero => exact .zero
  | leading low high digits =>
      exact .leading low high fun c member =>
        same c (List.mem_cons_of_mem _ member) (digits c member)

end IsNumeral

/-- The characters of numerals, and the dots between them. -/
theorem mem_numerals {digit : Char -> Bool} {list : List Text}
    (numerals : ∀ number ∈ list, IsNumeral digit number) (member : c ∈ Text.joined ['.'] list) :
    c = '.' ∨ c.isDigit = true ∨ digit c = true := by
  rcases Text.mem_joined member with dot | ⟨number, held, inside⟩
  · exact .inl dot
  · exact .inr ((numerals number held).digit_of_mem inside)

/-- The characters of labels behind their mark. -/
theorem mem_marked {mark : Char} {labels : Option (List Text)}
    (sound : ∀ list ∈ labels, AreLabels list) (member : c ∈ marked mark labels) :
    c = mark ∨ c = '.' ∨ isLabelChar c = true := by
  cases labels with
  | none => cases member
  | some list =>
      rcases List.mem_cons.1 member with rfl | within
      · exact .inl rfl
      · rcases Text.mem_joined within with dot | ⟨label, held, inside⟩
        · exact .inr (.inl dot)
        · exact .inr (.inr ((sound list rfl).characters label held c inside))

namespace Semantic

variable {digit other : Char -> Bool} {version : Semantic}

/-- The characters of a version are those of the grammar, and digits of the class. -/
theorem Spelled.mem_text (spelled : version.Spelled digit) (member : c ∈ version.text) :
    isVersionChar c = true ∨ digit c = true := by
  rw [isVersionChar_iff]
  rcases List.mem_append.1 member with front | build
  · rcases List.mem_append.1 front with number | preRelease
    · rcases mem_numerals spelled.numbers number with dot | ascii | further
      · exact .inl (.inr (.inl dot))
      · exact .inl (.inl (isLabelChar_of_isDigit ascii))
      · exact .inr further
    · rcases mem_marked spelled.preRelease preRelease with rfl | dot | allowed
      · exact .inl (.inl (by decide))
      · exact .inl (.inr (.inl dot))
      · exact .inl (.inl allowed)
  · rcases mem_marked spelled.build build with plus | dot | allowed
    · exact .inl (.inr (.inr plus))
    · exact .inl (.inr (.inl dot))
    · exact .inl (.inl allowed)

/-- A version is written with the digits of another class too if its digits are of that class. -/
theorem Spelled.of_digits (spelled : version.Spelled digit)
    (same : ∀ c ∈ version.text, digit c = true → other c = true) : version.Spelled other where
  numbers number held := by
    refine (spelled.numbers number held).of_digits fun c inside => same c ?_
    exact List.mem_append_left _ (List.mem_append_left _ (Text.subset_joined held inside))
  preRelease := spelled.preRelease
  build := spelled.build

end Semantic

end Characters

section Acceptance

variable {text : Text}

/-- Numbers are accepted with the digits of any script. -/
theorem isNumber_iff : isNumber text = true ↔ IsNumeral Text.isDigit text := by
  constructor
  · intro accepted
    unfold isNumber at accepted
    split at accepted
    · cases accepted
    · exact .zero
    · simp only [Bool.and_eq_true, decide_eq_true_eq, List.all_eq_true] at accepted
      exact .leading accepted.1.1 accepted.1.2 accepted.2
  · intro numeral
    cases numeral with
    | zero => rfl
    | @leading first rest low high digits =>
        rw [isNumber]
        · simp only [Bool.and_eq_true, decide_eq_true_eq, List.all_eq_true]
          exact ⟨⟨low, high⟩, digits⟩
        · rintro rfl
          exact absurd low (by decide)

/-- Labels are accepted with dots between them. -/
theorem isLabelList_iff :
    isLabelList text = true ↔ ∃ labels, AreLabels labels ∧ text = Text.joined ['.'] labels := by
  simp only [isLabelList, isLabel, List.all_eq_true, Bool.and_eq_true, Bool.not_eq_true',
    List.isEmpty_eq_false_iff]
  constructor
  · intro accepted
    exact ⟨Text.parts '.' text,
      ⟨Text.parts_ne_nil '.' text, fun label held => (accepted label held).1,
        fun label held => (accepted label held).2⟩, (Text.joined_parts '.' text).symm⟩
  · rintro ⟨labels, sound, rfl⟩
    have noDot : ∀ label ∈ labels, '.' ∉ label := fun label held dot =>
      absurd (sound.characters label held '.' dot) (by decide)
    rw [Text.parts_joined sound.present noDot]
    exact fun label held => ⟨sound.nonempty label held, sound.characters label held⟩

/-- Three numbers are accepted with dots between them. -/
theorem isRelease_iff :
    isRelease text = true ↔
      ∃ major minor patch, (∀ number ∈ [major, minor, patch], IsNumeral Text.isDigit number) ∧
        text = Text.joined ['.'] [major, minor, patch] := by
  constructor
  · intro accepted
    have whole := Text.joined_parts '.' text
    unfold isRelease at accepted
    split at accepted
    · next major minor patch found =>
        simp only [Bool.and_eq_true, isNumber_iff] at accepted
        refine ⟨major, minor, patch, ?_, by rw [← found, whole]⟩
        simpa [and_assoc] using accepted
    · cases accepted
  · rintro ⟨major, minor, patch, numerals, rfl⟩
    have noDot : ∀ number ∈ [major, minor, patch], '.' ∉ number := fun number held dot =>
      absurd ((numerals number held).digit_of_mem dot) (by decide)
    rw [isRelease, Text.parts_joined (List.cons_ne_nil major _) noDot]
    simpa [isNumber_iff, and_assoc] using numerals

/-- Labels behind the first mark are accepted, if the front is accepted that no mark stands in. -/
theorem cut_labels_iff {mark : Char} {front? : Text -> Bool}
    (bare : ∀ front, front? front = true → mark ∉ front) :
    (match Text.cut? [mark] text with
      | none => front? text
      | some (front, labels) => front? front && isLabelList labels) = true ↔
      ∃ front labels, front? front = true ∧ (∀ list ∈ labels, AreLabels list) ∧
        text = front ++ marked mark labels := by
  constructor
  · intro accepted
    split at accepted
    · exact ⟨text, none, accepted, nofun, (List.append_nil text).symm⟩
    · next front labels found =>
        obtain ⟨sound, listed⟩ := Bool.and_eq_true_iff.1 accepted
        obtain ⟨list, labelled, rfl⟩ := isLabelList_iff.1 listed
        refine ⟨front, some list, sound, fun other same => Option.some.inj same ▸ labelled, ?_⟩
        rw [Text.eq_append_of_cut? found, List.append_assoc]
        rfl
  · rintro ⟨front, labels, sound, labelled, rfl⟩
    -- the mark of the labels is the first one, since none stands in front of it
    cases labels with
    | none =>
        have uncut := Markup.cut?_eq_none_iff.2 (bare front sound)
        rw [marked, List.append_nil, uncut]
        exact sound
    | some list =>
        have cut := Markup.cut?_append_marker
          (@Markup.Avoids.of_not_mem mark [] front (bare front sound)) (Text.joined ['.'] list)
        rw [List.singleton_append] at cut
        rw [marked, cut]
        exact Bool.and_eq_true_iff.2 ⟨sound, isLabelList_iff.2 ⟨list, labelled list rfl, rfl⟩⟩

/-- Three numbers have digits, and dots between them. -/
theorem mem_release {c : Char} (accepted : isRelease text = true) (member : c ∈ text) :
    c = '.' ∨ c.isDigit = true ∨ Text.isDigit c = true := by
  obtain ⟨major, minor, patch, numerals, rfl⟩ := isRelease_iff.1 accepted
  exact mem_numerals numerals member

/-- Three numbers have no hyphen. -/
theorem hyphen_not_mem_release (accepted : isRelease text = true) : '-' ∉ text := by
  intro held
  exact absurd (mem_release accepted held) (by decide)

/-- Three numbers and the labels of a pre-release have no plus sign. -/
theorem plus_not_mem_withoutBuild (accepted : isWithoutBuild text = true) : '+' ∉ text := by
  obtain ⟨front, labels, release, labelled, rfl⟩ :=
    (cut_labels_iff fun _ => hyphen_not_mem_release).1 accepted
  intro held
  rcases List.mem_append.1 held with number | label
  · exact absurd (mem_release release number) (by decide)
  · exact absurd (mem_marked labelled label) (by decide)

/-- Accepted as semantic versions are those that are spelled with the digits of any script. -/
theorem isSemantic_iff :
    isSemantic text = true ↔
      ∃ version : Semantic, version.Spelled Text.isDigit ∧ version.text = text := by
  constructor
  · intro accepted
    obtain ⟨front, build, front?, built, rfl⟩ :=
      (cut_labels_iff fun _ => plus_not_mem_withoutBuild).1 accepted
    obtain ⟨release, preRelease, release?, labelled, rfl⟩ :=
      (cut_labels_iff fun _ => hyphen_not_mem_release).1 front?
    obtain ⟨major, minor, patch, numerals, rfl⟩ := isRelease_iff.1 release?
    exact ⟨⟨major, minor, patch, preRelease, build⟩, ⟨numerals, labelled, built⟩, rfl⟩
  · rintro ⟨⟨major, minor, patch, preRelease, build⟩, ⟨numerals, labelled, built⟩, rfl⟩
    have release := isRelease_iff.2 ⟨major, minor, patch, numerals, rfl⟩
    have front := (cut_labels_iff fun _ => hyphen_not_mem_release).2
      ⟨_, preRelease, release, labelled, rfl⟩
    exact (cut_labels_iff fun _ => plus_not_mem_withoutBuild).2 ⟨_, build, front, built, rfl⟩

/-- A line feed at the very end is passed over, and nothing else. -/
theorem withoutFinalFeed_eq_iff {core : Text} (free : '\n' ∉ core) :
    withoutFinalFeed text = core ↔ text = core ∨ text = core ++ ['\n'] := by
  unfold withoutFinalFeed
  split
  · next last =>
      obtain ⟨front, rfl⟩ := List.getLast?_eq_some_iff.1 last
      rw [List.dropLast_concat, List.append_left_inj, or_iff_right]
      rintro rfl
      simp at free
  · next other =>
      rw [or_iff_left]
      rintro rfl
      exact other List.getLast?_concat

/-- The accepted versions: the word for development, and semantic versions that are spelled with the
digits of any script, of which a line feed may stand behind. -/
theorem isValid_iff :
    isValid text = true ↔ text = master ∨ ∃ version : Semantic, version.Spelled Text.isDigit ∧
      (text = version.text ∨ text = version.text ++ ['\n']) := by
  rw [isValid, Bool.or_eq_true, beq_iff_eq, isSemantic_iff]
  refine or_congr_right (exists_congr fun version => and_congr_right fun spelled => ?_)
  have oneLine : '\n' ∉ version.text := fun held =>
    absurd (spelled.mem_text held) (by decide)
  rw [eq_comm, withoutFinalFeed_eq_iff oneLine]

/-- The characters of an accepted version are those of the grammar, digits of any script, and a line
feed. -/
theorem mem_of_isValid {c : Char} (valid : isValid text = true) (member : c ∈ text) :
    isVersionChar c = true ∨ Text.isDigit c = true ∨ c = '\n' := by
  rcases isValid_iff.1 valid with rfl | ⟨version, spelled, rfl | rfl⟩
  · exact .inl (isVersionChar_of_mem_master member)
  · exact (spelled.mem_text member).imp_right .inl
  · rcases List.mem_append.1 member with within | feed
    · exact (spelled.mem_text within).imp_right .inl
    · exact .inr (.inr (List.mem_singleton.1 feed))

/-- A version of the grammar has no other characters than the grammar. -/
theorem Grammatical.isVersionChar_of_mem {c : Char} (grammatical : Grammatical text)
    (member : c ∈ text) : isVersionChar c = true := by
  rcases grammatical with rfl | ⟨version, spelled, rfl⟩
  · exact isVersionChar_of_mem_master member
  · rcases spelled.mem_text member with allowed | ascii
    · exact allowed
    · exact isVersionChar_of_isDigit ascii

/-- The versions of the grammar are the accepted ones with no other characters than the grammar. -/
theorem grammatical_iff :
    Grammatical text ↔ isValid text = true ∧ ∀ c ∈ text, isVersionChar c = true := by
  rw [isValid_iff]
  constructor
  · intro grammatical
    refine ⟨?_, fun c member => grammatical.isVersionChar_of_mem member⟩
    refine grammatical.imp_right fun ⟨version, spelled, whole⟩ => ?_
    exact ⟨version, spelled.of_digits fun c _ => isDigit_of_ascii, .inl whole.symm⟩
  · rintro ⟨rfl | ⟨version, spelled, rfl | rfl⟩, allowed⟩
    · exact .inl rfl
    · refine .inr ⟨version, spelled.of_digits fun c member => ?_, rfl⟩
      exact (isDigit_iff_of_lt (toNat_lt_of_isVersionChar (allowed c member))).1
    · exact absurd (allowed '\n' (by simp)) (by decide)

end Acceptance

end EditorData.Version

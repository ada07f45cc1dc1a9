import EditorData.CommandLine.Run
import EditorData.Proofs.Storage.Places
import EditorData.Proofs.Version.Grammar

/-!
# The data file of a version

A version that is accepted becomes a part of a file name and of a comment. It never has a slash, so
its file stands in the folder for data under the name of the version (`placeOf_versionDataPath`).
The comment with it is a whole line only if the version has no line feed
(`updateComment_mem_lines`).
-/

namespace EditorData.CommandLine

open EditorData.Version
open EditorData.ZigSource (versionDataHeader)

/-- The comment in version data that says how to update it. -/
def updateComment (version : Text) : Text :=
  "//! `zig build gen -- --generate-version-data ".toList ++ version ++
    "` (requires an internet connection)".toList

/-- The comment stands in the header between line feeds. -/
theorem exists_header_eq (version : Text) : ∃ front rest,
    versionDataHeader version = front ++ '\n' :: (updateComment version ++ '\n' :: rest) := by
  have before : "//! If you want to update this file run:\n".toList =
      "//! If you want to update this file run:".toList ++ ['\n'] := rfl
  have ending : "` (requires an internet connection)\n".toList =
      "` (requires an internet connection)".toList ++ ['\n'] := rfl
  unfold versionDataHeader updateComment
  simp only [before, ending, List.append_assoc, List.cons_append, List.nil_append]
  exact ⟨_ ++ _, _, (List.append_assoc ..).symm⟩

/-- The comment is one of the lines of the header exactly if the version has no line feed. -/
theorem updateComment_mem_lines (version : Text) :
    updateComment version ∈ Text.lines (versionDataHeader version) ↔ '\n' ∉ version := by
  constructor
  · intro line held
    have within : '\n' ∈ updateComment version :=
      List.mem_append_left _ (List.mem_append_right _ held)
    exact Text.separator_not_mem_part line within
  · intro oneLine
    obtain ⟨front, rest, whole⟩ := exists_header_eq version
    have comment : '\n' ∉ updateComment version :=
      List.not_mem_append (List.not_mem_append (by decide) oneLine) (by decide)
    rw [whole, Text.lines, Text.parts_append, Text.parts_append, Text.parts_of_not_mem comment]
    exact List.mem_append_right _ List.mem_cons_self

/-- The file for an accepted version stands in the folder for data, under the name of the version.
-/
theorem placeOf_versionDataPath {version : Text} (valid : isValid version = true)
    (storage : Storage) {arguments : Arguments} {folder : Text}
    (noOther : arguments.given? .versionDataPath = none)
    (given : arguments.dataPath = some folder) :
    ∃ path, arguments.versionDataPath version = some path ∧
      storage.placeOf path = storage.placeOf folder ++ [version ++ ".zig".toList] := by
  refine ⟨Storage.Path.join folder (version ++ ".zig".toList), ?_, ?_⟩
  · rw [Arguments.versionDataPath, noOther, given]
    rfl
  · refine storage.placeOf_join ?_ (fun place => ?_) folder
    · intro held
      rcases List.mem_append.1 held with within | ending
      · exact absurd (mem_of_isValid valid within) (by decide)
      · exact absurd ending (by decide)
    · have ends : 'z' ∈ version ++ ".zig".toList := List.mem_append_right _ (by decide)
      rw [Storage.step, if_neg, if_neg]
      · intro up
        exact absurd (up ▸ ends) (by decide)
      · rintro (empty | stay)
        · exact absurd (empty ▸ ends) (by decide)
        · exact absurd (stay ▸ ends) (by decide)

/-- What is accepted as a version, and what becomes of it. Accepted are the word for development and
semantic versions that are written with the digits of any script, of which a line feed may stand
behind. The versions of the grammar are those among them that have no characters other than letters,
digits, dots, hyphens and plus signs. With any accepted version, the comment that says how to update
the data is one line exactly if the version has no line feed, and the data file stands in the folder
for data under the name of the version. -/
theorem version_accepted_iff (version : Text) :
    (isValid version = true ↔ version = master ∨
      ∃ semantic : Semantic, semantic.Spelled Text.isDigit ∧
        (version = semantic.text ∨ version = semantic.text ++ ['\n'])) ∧
    (Grammatical version ↔ isValid version = true ∧ ∀ c ∈ version, isVersionChar c = true) ∧
    (isValid version = true →
      (updateComment version ∈ Text.lines (versionDataHeader version) ↔ '\n' ∉ version) ∧
      ∀ (storage : Storage) (arguments : Arguments) (folder : Text),
        arguments.given? .versionDataPath = none → arguments.dataPath = some folder →
          ∃ path, arguments.versionDataPath version = some path ∧
            storage.placeOf path = storage.placeOf folder ++ [version ++ ".zig".toList]) :=
  ⟨isValid_iff, grammatical_iff, fun valid => ⟨updateComment_mem_lines version,
    fun storage _ _ noOther given => placeOf_versionDataPath valid storage noOther given⟩⟩

/-- A version of the grammar with labels of both kinds, its comment and its file. -/
theorem version_accepted_labelled :
    isValid "0.11.0-dev.1+abc".toList = true ∧ Grammatical "0.11.0-dev.1+abc".toList ∧
      updateComment "0.11.0-dev.1+abc".toList ∈
        Text.lines (versionDataHeader "0.11.0-dev.1+abc".toList) ∧
      ∃ path,
        (⟨none, none, none, some "src/data".toList, []⟩ : Arguments).versionDataPath
          "0.11.0-dev.1+abc".toList = some path ∧
        (Storage.empty ["work".toList]).placeOf path =
          ["work".toList, "src".toList, "data".toList, "0.11.0-dev.1+abc.zig".toList] := by
  obtain ⟨-, grammar, placed⟩ := version_accepted_iff "0.11.0-dev.1+abc".toList
  have valid : isValid "0.11.0-dev.1+abc".toList = true := by decide
  have characters : "0.11.0-dev.1+abc".toList.all isVersionChar = true := by decide
  obtain ⟨comment, file⟩ := placed valid
  exact ⟨valid, grammar.2 ⟨valid, List.all_eq_true.1 characters⟩, comment.2 (by decide),
    file (.empty ["work".toList]) ⟨none, none, none, some "src/data".toList, []⟩
      "src/data".toList rfl rfl⟩

/-- A line feed behind a version is accepted, and breaks the comment. A digit of another script is
accepted, too. Neither version belongs to the grammar. -/
theorem version_accepted_feed :
    isValid "1.0.0\n".toList = true ∧ ¬ Grammatical "1.0.0\n".toList ∧
      updateComment "1.0.0\n".toList ∉ Text.lines (versionDataHeader "1.0.0\n".toList) ∧
      isValid "1٠.0.0".toList = true ∧ ¬ Grammatical "1٠.0.0".toList := by
  refine ⟨by decide, fun grammatical => ?_, fun line => ?_, by decide, fun grammatical => ?_⟩
  · exact absurd (@Grammatical.isVersionChar_of_mem _ '\n' grammatical (by decide)) (by decide)
  · exact (updateComment_mem_lines _).1 line (by decide)
  · exact absurd (@Grammatical.isVersionChar_of_mem _ '٠' grammatical (by decide)) (by decide)

end EditorData.CommandLine

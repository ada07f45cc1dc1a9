import EditorData.Catalogue.Entry
import EditorData.Section

/-!
# The table of options in the README

A row for each option, below two heading lines. The table is the generated section of the
README.
-/

namespace EditorData.Catalogue

/-- The row of one option. -/
def renderRow (entry : Entry) : Text :=
  "| `".toList ++ Text.trimmed entry.name ++ "` | `".toList ++ Text.trimmed entry.zigType ++
    "` | `".toList ++ Text.trimmed entry.initializer ++ "` | ".toList ++
    Text.trimmed entry.description ++ " |\n".toList

/-- The heading lines of the table. -/
def tableHeading : Text :=
  "\n| Option | Type | Default value | What it Does |\n".toList ++
  "| --- | --- | --- | --- |\n".toList

/-- The table with every option. -/
def renderTable (entries : List Entry) : Text :=
  tableHeading ++ entries.flatMap renderRow

/-- The marker in front of the table. -/
def tableStart : Text :=
  "<!-- DO NOT EDIT | THIS SECTION IS AUTO-GENERATED | DO NOT EDIT -->".toList

/-- The marker behind the table. -/
def tableEnd : Text :=
  "<!-- DO NOT EDIT -->".toList

/-- The README with the table of these options. -/
def updateReadme (readme : Text) (entries : List Entry) : Except Section.Fault Text :=
  Section.replace tableStart tableEnd (renderTable entries) readme

end EditorData.Catalogue

import EditorData.Catalogue.Entry

/-!
# The Zig file of the options

A field for each option, with its description as a documentation comment in front. All
texts are written without the blanks around them. The file is rendered from options of texts
as from options of code points.
-/

namespace EditorData.Catalogue

/-- What the texts of options may be made up of. -/
class Letter (Symbol : Type) where
  /-- A text as it is written with such letters. -/
  ofText : Text -> List Symbol
  /-- Whether a letter is one of the blanks of ASCII. -/
  isBlank : Symbol -> Bool

instance : Letter Char where
  ofText text := text
  isBlank := Text.isBlank

instance : Letter CodePoint where
  ofText := Text.codes
  isBlank point := point.char?.any Text.isBlank

section Rendering

variable {Symbol : Type} [Letter Symbol]

/-- Letters without the blanks at their ends. -/
def withoutBlanks (letters : List Symbol) : List Symbol :=
  Text.trim Letter.isBlank letters

/-- The comment and the field of one option. -/
def renderField (entry : Entry Symbol) : List Symbol :=
  let between (text : String) : List Symbol := Letter.ofText text.toList
  between "\n/// " ++ withoutBlanks entry.description ++ between "\n" ++
  withoutBlanks entry.name ++ between ": " ++ withoutBlanks entry.zigType ++ between " = " ++
    withoutBlanks entry.initializer ++ between ",\n"

/-- The head of the file. -/
def configFileHeader : Text :=
  "//! DO NOT EDIT\n".toList ++
  "//! Configuration options for zls.\n".toList ++
  "//! If you want to add a config option edit\n".toList ++
  "//! src/config_gen/config.json and run `zig build gen`\n".toList ++
  "//! GENERATED BY zls_gen\n".toList

/-- The foot of the file. -/
def configFileFooter : Text :=
  "\n// DO NOT EDIT\n".toList

/-- The Zig file with every option. -/
def renderConfigFile (entries : List (Entry Symbol)) : List Symbol :=
  Letter.ofText configFileHeader ++ entries.flatMap renderField ++ Letter.ofText configFileFooter

end Rendering

/-- The comment and the field of an option of texts. -/
theorem renderField_eq (entry : Entry) :
    renderField entry =
      "\n/// ".toList ++ Text.trimmed entry.description ++ "\n".toList ++
      Text.trimmed entry.name ++ ": ".toList ++ Text.trimmed entry.zigType ++ " = ".toList ++
        Text.trimmed entry.initializer ++ ",\n".toList :=
  rfl

/-- The Zig file of options of texts. -/
theorem renderConfigFile_eq (entries : List Entry) :
    renderConfigFile entries =
      configFileHeader ++ entries.flatMap renderField ++ configFileFooter :=
  rfl

end EditorData.Catalogue

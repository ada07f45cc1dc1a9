import EditorData.Text.Basic
import EditorData.Text.Digit

/-!
# Versions

A version is the word `master` or a semantic version: three numbers, then optionally the
labels of a pre-release behind a hyphen, then optionally the labels of a build behind a plus
sign. Numbers have no leading zeros; from the second digit on, the digits of any script
count. A line feed at the very end is allowed.
-/

namespace EditorData.Version

/-- Whether a character may stand in a label. -/
def isLabelChar (c : Char) : Bool :=
  ('0' ≤ c && c ≤ '9') || ('a' ≤ c && c ≤ 'z') || ('A' ≤ c && c ≤ 'Z') || c == '-'

/-- Whether a text is a label. -/
def isLabel (text : Text) : Bool :=
  !text.isEmpty && text.all isLabelChar

/-- Whether a text consists of labels with dots between them. -/
def isLabelList (text : Text) : Bool :=
  (Text.parts '.' text).all isLabel

/-- Whether a text is a number without leading zeros. -/
def isNumber : Text -> Bool
  | [] => false
  | ['0'] => true
  | c :: rest => '1' ≤ c && c ≤ '9' && rest.all Text.isDigit

/-- Whether a text is three numbers with dots between them. -/
def isRelease (text : Text) : Bool :=
  match Text.parts '.' text with
  | [major, minor, patch] => isNumber major && isNumber minor && isNumber patch
  | _ => false

/-- Whether a text is three numbers, with the labels of a pre-release or without. -/
def isWithoutBuild (text : Text) : Bool :=
  match Text.cut? ['-'] text with
  | none => isRelease text
  | some (release, labels) => isRelease release && isLabelList labels

/-- Whether a text is a semantic version. Neither a number nor a label has a plus sign, so the
first one begins the build; and no number has a hyphen, so the first one in front of the
build begins the pre-release. -/
def isSemantic (text : Text) : Bool :=
  match Text.cut? ['+'] text with
  | none => isWithoutBuild text
  | some (front, build) => isWithoutBuild front && isLabelList build

/-- The text without a line feed at its very end. -/
def withoutFinalFeed (text : Text) : Text :=
  if text.getLast? = some '\n' then text.dropLast else text

/-- The version that follows development. -/
def master : Text :=
  "master".toList

/-- Whether a text is a version. -/
def isValid (version : Text) : Bool :=
  version == master || isSemantic (withoutFinalFeed version)

end EditorData.Version

import EditorData.Text.Basic
import EditorData.Text.Digit
import EditorData.Text.Quoted

/-!
# Words of the command line

A word in front of the separator `--` is an option or a path. An option may be shortened as
long as only one option begins that way, and its value may stand in the same word behind an
equal sign. A word with a hyphen in front that is no option is still a path when it is a
single hyphen, a negative number, or has a space; otherwise it is kept as an unknown
option.
-/

namespace EditorData.CommandLine

/-- An option with a value. -/
inductive ValueOption where
  | editorProperties
  | version
  | versionDataPath
  | referenceFile
  | catalogue
  | environmentFile
  | logLevel
  | logFile
deriving DecidableEq, Repr

/-- An option. -/
inductive Flag where
  | help
  | value (option : ValueOption)
deriving DecidableEq, Repr

/-- How an option with a value is written. -/
def ValueOption.spelling : ValueOption -> Text
  | .editorProperties => "--vscode-config-path".toList
  | .version => "--generate-version-data".toList
  | .versionDataPath => "--generate-version-data-path".toList
  | .referenceFile => "--langref-file".toList
  | .catalogue => "--config-options".toList
  | .environmentFile => "--env-file".toList
  | .logLevel => "--log-level".toList
  | .logFile => "--log-file".toList

/-- The options with a value. -/
def valueOptions : List ValueOption :=
  [.editorProperties, .version, .versionDataPath, .referenceFile, .catalogue,
    .environmentFile, .logLevel, .logFile]

/-- The long options by their spelling. -/
def longOptions : List (Text × Flag) :=
  ("--help".toList, .help) :: valueOptions.map fun option => (option.spelling, .value option)

/-- A word in front of the separator. -/
inductive Word where
  | path (text : Text)
  /-- An option with the value in the same word, if there is one there. -/
  | option (option : ValueOption) (attached : Option Text)
  /-- The request for help with what was attached to it, if it takes no such thing. -/
  | help (attached : Option Text)
  | unknown (text : Text)
deriving DecidableEq, Repr

/-- Several options that begin like a word. -/
structure Ambiguity where
  word : Text
  candidates : List Text
deriving DecidableEq, Repr

/-- The word for an option and what is attached to it. -/
def Flag.word (flag : Flag) (attached : Option Text) : Word :=
  match flag with
  | .help => .help attached
  | .value option => .option option attached

/-- What the short request for help does not take of the text behind it. The request may be
repeated in one word, also behind an equal sign, which by itself is an empty value. -/
def beyondHelp (behind : Text) : Option Text :=
  if behind = ['='] then some []
  else
    let attached :=
      match behind with
      | '=' :: rest => rest
      | _ => behind
    match attached.dropWhile (· == 'h') with
    | [] => none
    | left => some left

/-- Whether a text is digits, or digits around a point of which those in front may be
missing. -/
def isUnsignedNumber (text : Text) : Bool :=
  match Text.parts '.' text with
  | [whole] => !whole.isEmpty && whole.all Text.isDigit
  | [whole, fraction] =>
      whole.all Text.isDigit && !fraction.isEmpty && fraction.all Text.isDigit
  | _ => false

/-- Whether the text behind a hyphen makes the word a path. A line feed at the very end of a
number is passed over. -/
def isPathBehindHyphen (rest : Text) : Bool :=
  rest.isEmpty || rest.contains ' ' ||
    isUnsignedNumber (if rest.getLast? = some '\n' then rest.dropLast else rest)

/-- The option a word begins with two hyphens for: the one written like this, or else the only
one that begins like this. None is found if no option begins like this. -/
def longOption? (word written : Text) : Except Ambiguity (Option Flag) :=
  match longOptions.filter fun option => option.1 == written with
  | (_, flag) :: _ => .ok (some flag)
  | [] =>
      match longOptions.filter fun option => Text.startsWith written option.1 with
      | [] => .ok none
      | [(_, flag)] => .ok (some flag)
      | candidates => .error ⟨word, candidates.map Prod.fst⟩

/-- What a word in front of the separator is. -/
def Word.ofText (text : Text) : Except Ambiguity Word :=
  match text with
  | '-' :: 'h' :: behind => .ok (.help (beyondHelp behind))
  | '-' :: '-' :: rest =>
      let (written, attached) :=
        match Text.cut? ['='] text with
        | some (written, attached) => (written, some attached)
        | none => (text, none)
      match longOption? text written with
      | .error ambiguity => .error ambiguity
      | .ok (some flag) => .ok (flag.word attached)
      | .ok none =>
          .ok (if isPathBehindHyphen ('-' :: rest) then .path text else .unknown text)
  | '-' :: rest => .ok (if isPathBehindHyphen rest then .path text else .unknown text)
  | _ => .ok (.path text)

/-- What the words in front of the separator are, up to the first ambiguity. -/
def Word.ofTexts : List Text -> Except Ambiguity (List Word)
  | [] => .ok []
  | text :: rest =>
      match Word.ofText text with
      | .error ambiguity => .error ambiguity
      | .ok word => (Word.ofTexts rest).map (word :: ·)

end EditorData.CommandLine

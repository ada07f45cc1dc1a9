import EditorData.CommandLine.Word
import EditorData.Dictionary

/-!
# Arguments of the command

The command takes four paths and the options between them in any order. Behind the separator
`--` every word is a path, and a separator in the place of a value is no value. Words beyond
the fourth path and unknown options are collected, and refused at the end; a missing path is
reported before them. The first option without its value, and the first request for help,
end the reading at once.
-/

namespace EditorData.CommandLine

/-- Why the words of a command line are refused. -/
inductive UsageFault where
  | ambiguous (ambiguity : Ambiguity)
  | missingValue (option : ValueOption)
  /-- Something attached to the request for help. -/
  | attachedToHelp (text : Text)
  | missingPaths (names : List Text)
  | unrecognized (words : List Text)
  | invalidVersion (version : Text)
deriving DecidableEq, Repr

/-- The wording of a refusal. -/
def UsageFault.message : UsageFault -> Text
  | .ambiguous ⟨word, candidates⟩ =>
      "ambiguous option: ".toList ++ word ++ " could match ".toList ++
        Text.joined ", ".toList candidates
  | .missingValue option =>
      "argument ".toList ++ option.spelling ++ ": expected one argument".toList
  | .attachedToHelp text =>
      "argument -h/--help: ignored explicit argument ".toList ++ Text.quoted text
  | .missingPaths names =>
      "the following arguments are required: ".toList ++ Text.joined ", ".toList names
  | .unrecognized words => "unrecognized arguments: ".toList ++ Text.joined [' '] words
  | .invalidVersion version =>
      '\'' :: version ++ "' is not a valid argument after --generate-version-data.".toList

/-- What ends the reading before the last word. -/
inductive Stop where
  | help
  | fault (fault : UsageFault)
deriving DecidableEq, Repr

/-- The separator between options and paths. -/
def separator : Text :=
  ['-', '-']

/-- The paths of the command, in order. -/
def pathNames : List Text :=
  ["config_path".toList, "schema_path".toList, "readme_path".toList, "data_path".toList]

/-- What has been read of a command line. A path or a value is missing where a separator stands
in its place. -/
structure Reading where
  /-- The paths, the last one first. -/
  paths : List (Option Text)
  values : Dictionary ValueOption (Option Text)
  /-- The words that nothing takes, the last one first. -/
  refused : List Text
  /-- Whether the last word was taken as a path. -/
  behindPath : Bool
deriving DecidableEq, Repr

namespace Reading

/-- In front of the first word. -/
def start : Reading :=
  ⟨[], [], [], false⟩

/-- Whether all paths have been read. -/
def isFull (reading : Reading) : Bool :=
  pathNames.length ≤ reading.paths.length

/-- Refuse a word. -/
def refuse (reading : Reading) (word : Text) : Reading :=
  { reading with refused := word :: reading.refused, behindPath := false }

/-- Take a word as the next path. -/
def take (reading : Reading) (word : Text) : Reading :=
  { reading with paths := some word :: reading.paths, behindPath := true }

/-- Take a word as the next path if there is one to read. -/
def readPath (reading : Reading) (word : Text) : Reading :=
  if reading.isFull then reading.refuse word else reading.take word

/-- Give an option its value. -/
def set (reading : Reading) (option : ValueOption) (value : Text) : Reading :=
  { reading with
    values :=
      Dictionary.assign option (if value = separator then none else some value) reading.values
    behindPath := false }

/-- Read the words in front of the separator. The value of an option is attached to it or is
the path behind it. -/
def readWords (reading : Reading) : List Word -> Except Stop Reading
  | [] => .ok reading
  | .path text :: rest => (reading.readPath text).readWords rest
  | .unknown text :: rest => (reading.refuse text).readWords rest
  | .help none :: _ => .error .help
  | .help (some attached) :: _ => .error (.fault (.attachedToHelp attached))
  | .option option (some value) :: rest => (reading.set option value).readWords rest
  | .option option none :: .path value :: rest => (reading.set option value).readWords rest
  | .option option none :: _ => .error (.fault (.missingValue option))

/-- Read a word behind the separator. A further separator takes the place of a path without
being one. -/
def readLiteral (reading : Reading) (word : Text) : Reading :=
  if reading.isFull then reading.refuse word
  else if word = separator then { reading with paths := none :: reading.paths }
  else reading.take word

/-- Read the separator and the words behind it. The separator goes with the path in front of it,
or else with the one behind it, which is then taken whatever it is; with no path on either
side it is refused itself. -/
def readSeparated (reading : Reading) : List Text -> Reading
  | [] => if reading.behindPath then reading else reading.refuse separator
  | word :: rest =>
      if reading.behindPath then (word :: rest).foldl readLiteral reading
      else if reading.isFull then (separator :: word :: rest).foldl refuse reading
      else rest.foldl readLiteral (reading.take word)

end Reading

/-- The arguments of the command. -/
structure Arguments where
  configPath : Option Text
  schemaPath : Option Text
  readmePath : Option Text
  dataPath : Option Text
  values : Dictionary ValueOption (Option Text)
deriving DecidableEq, Repr

namespace Arguments

/-- The value of an option that was written, which may be missing. -/
def value? (arguments : Arguments) (option : ValueOption) : Option (Option Text) :=
  Dictionary.find? option arguments.values

/-- The value of an option, if there is one and it is not empty. -/
def given? (arguments : Arguments) (option : ValueOption) : Option Text :=
  (arguments.value? option).join.filter (!·.isEmpty)

end Arguments

/-- The arguments of a complete reading. -/
def Reading.finish (reading : Reading) : Except UsageFault Arguments :=
  match reading.paths with
  | [dataPath, readmePath, schemaPath, configPath] =>
      if reading.refused.isEmpty then
        .ok ⟨configPath, schemaPath, readmePath, dataPath, reading.values⟩
      else .error (.unrecognized reading.refused.reverse)
  | paths => .error (.missingPaths (pathNames.drop paths.length))

/-- The words of a command line in front of the separator, and those behind it if there is a
separator. -/
def splitAtSeparator : List Text -> List Text × Option (List Text)
  | [] => ([], none)
  | word :: rest =>
      if word = separator then ([], some rest)
      else
        let (front, behind) := splitAtSeparator rest
        (word :: front, behind)

/-- Read a command line. -/
def Arguments.ofTexts (texts : List Text) : Except Stop Arguments :=
  let (front, behind) := splitAtSeparator texts
  match Word.ofTexts front with
  | .error ambiguity => .error (.fault (.ambiguous ambiguity))
  | .ok words =>
      match Reading.start.readWords words with
      | .error stop => .error stop
      | .ok reading =>
          let complete :=
            match behind with
            | none => reading
            | some literal => reading.readSeparated literal
          match complete.finish with
          | .ok arguments => .ok arguments
          | .error fault => .error (.fault fault)

end EditorData.CommandLine

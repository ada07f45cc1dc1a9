import EditorData.Settings.EnvironmentFiles
import EditorData.Text.Blank

/-!
# Environment files

An environment file assigns values to names, one assignment on a line. A name may follow
the word `export`; comments begin with a hash. A value is the rest of its line up to a
comment, or a text in single or double quotes, which may go over several lines and has
escapes of its own. In either form a dollar sign before a name in braces refers to a
variable. A name may also stand alone, without a value. Of several values for a name the
last one counts. A line that is nothing of this kind is malformed and skipped. A byte order
mark in front of the first line is no part of it. This is the library that the program runs with
(`library`).
-/

namespace EditorData.Settings.EnvFile

/-- White space within a line. -/
def isInlineSpace (c : Char) : Bool :=
  Text.isSpace c && c != '\n' && c != '\r'

/-- Whether a character ends a line. -/
def endsLine (c : Char) : Bool :=
  c == '\n' || c == '\r'

/-- What follows the end of a line, if the text begins with one or is empty. -/
def afterLine? : Text -> Option Text
  | [] => some []
  | '\r' :: '\n' :: rest => some rest
  | '\n' :: rest => some rest
  | '\r' :: rest => some rest
  | _ => none

/-- What follows the line that a text begins with. -/
def skipLine (text : Text) : Text :=
  (afterLine? (text.dropWhile fun c => !endsLine c)).getD []

/-- What follows the word `export` and the space behind it, or all of the text. -/
def skipExport (text : Text) : Text :=
  match Text.after? "export".toList text with
  | some rest =>
      if (rest.head?.map isInlineSpace).getD false then rest.dropWhile isInlineSpace else text
  | none => text

/-- The text behind an opening quote up to its closing quote, and what follows that. A
backslash takes the character behind it along, also a quote or another backslash. -/
def splitQuoted (quote : Char) : Text -> Option (Text × Text)
  | [] => none
  | '\\' :: c :: rest => (splitQuoted quote rest).map (Prod.map (['\\', c] ++ ·) id)
  | c :: rest =>
      if c = quote then some ([], rest) else (splitQuoted quote rest).map (Prod.map (c :: ·) id)

/-- The text of a single-quoted value. -/
def unescapeSingle : Text -> Text
  | '\\' :: c :: rest =>
      if c = '\\' ∨ c = '\'' then c :: unescapeSingle rest else '\\' :: unescapeSingle (c :: rest)
  | c :: rest => c :: unescapeSingle rest
  | [] => []

/-- The character of an escape in a double-quoted value. -/
def doubleEscape? : Char -> Option Char
  | '\\' => some '\\'
  | '\'' => some '\''
  | '"' => some '"'
  | 'a' => some '\x07'
  | 'b' => some '\x08'
  | 'f' => some '\x0c'
  | 'n' => some '\n'
  | 'r' => some '\r'
  | 't' => some '\t'
  | 'v' => some '\x0b'
  | _ => none

/-- The text of a double-quoted value. -/
def unescapeDouble : Text -> Text
  | '\\' :: c :: rest =>
      match doubleEscape? c with
      | some escaped => escaped :: unescapeDouble rest
      | none => '\\' :: unescapeDouble (c :: rest)
  | c :: rest => c :: unescapeDouble rest
  | [] => []

/-- A value without the comment at its end: a hash behind white space begins one, also the
white space behind the equal sign. -/
def withoutComment : Text -> Text
  | [] => []
  | c :: rest =>
      if Text.isSpace c && ((rest.dropWhile Text.isSpace).head? == some '#') then []
      else c :: withoutComment rest

/-- The value behind an equal sign, and what follows it. -/
def splitValue (text : Text) : Option (Text × Text) :=
  match text.dropWhile isInlineSpace with
  | '\'' :: rest => (splitQuoted '\'' rest).map (Prod.map unescapeSingle id)
  | '"' :: rest => (splitQuoted '"' rest).map (Prod.map unescapeDouble id)
  | _ =>
      some (Text.trim Text.isSpace (withoutComment (text.takeWhile fun c => !endsLine c)),
        text.dropWhile fun c => !endsLine c)

/-- The name in front of an equal sign, and what follows it. -/
def splitName? (text : Text) : Option (Text × Text) :=
  match text with
  | '\'' :: rest =>
      let name := rest.takeWhile (· != '\'')
      match rest.drop name.length with
      | _ :: after => if name.isEmpty then none else some (name, after)
      | [] => none
  | _ =>
      let inName (c : Char) : Bool := c != '=' && c != '#' && !Text.isSpace c
      let name := text.takeWhile inName
      if name.isEmpty then none else some (name, text.dropWhile inName)

/-- What follows white space, a comment and the end of the line, if nothing else is there. -/
def afterRest? (text : Text) : Option Text :=
  let rest := text.dropWhile isInlineSpace
  match rest with
  | '#' :: _ => afterLine? (rest.dropWhile fun c => !endsLine c)
  | _ => afterLine? rest

/-- A statement of an environment file. -/
inductive Statement where
  /-- A name with its value, or alone. -/
  | assignment (name : Text) (value : Option Text)
  | comment
  /-- What is nothing of this kind, with the line that follows the statement before it. -/
  | malformed (line : Nat)
deriving DecidableEq, Repr

/-- The statement a text begins with, if it is well formed, and the text behind its line. The
text begins with no white space. -/
def splitStatement (text : Text) : Option Statement × Text :=
  match skipExport text with
  | '#' :: rest => (some .comment, skipLine rest)
  | begun =>
      match splitName? begun with
      | none => (none, skipLine begun)
      | some (name, rest) =>
          match rest.dropWhile isInlineSpace with
          | '=' :: assigned =>
              match splitValue assigned with
              | none => (none, skipLine assigned)
              | some (value, after) =>
                  match afterRest? after with
                  | some next => (some (.assignment name (some value)), next)
                  | none => (none, skipLine after)
          | other =>
              match afterRest? other with
              | some next => (some (.assignment name none), next)
              | none => (none, skipLine other)

/-- The statements of a text with which a file of so many lines ends. The fuel bounds their
number. -/
def statementsFrom (lineCount : Nat) : (fuel : Nat) -> Text -> List Statement
  | 0, _ => []
  | fuel + 1, text =>
      match text.dropWhile Text.isSpace with
      | [] => []
      | begun =>
          match splitStatement begun with
          | (some statement, rest) => statement :: statementsFrom lineCount fuel rest
          | (none, rest) =>
              .malformed (lineCount - text.count '\n') :: statementsFrom lineCount fuel rest

/-- A text without the byte order mark in front of it. -/
def withoutMark (text : Text) : Text :=
  match text with
  | '\ufeff' :: rest => rest
  | _ => text

/-- The name and the default of the reference that follows a dollar sign, and what follows the
reference. -/
def splitReference? : Text -> Option (Text × Option Text × Text)
  | '{' :: text =>
      let name := text.takeWhile fun c => c != '}' && c != ':'
      match text.drop name.length with
      | '}' :: rest => some (name, none, rest)
      | ':' :: '-' :: behind =>
          let default := behind.takeWhile (· != '}')
          match behind.drop default.length with
          | _ :: rest => some (name, some default, rest)
          | [] => none
      | _ => none
  | _ => none

/-- A value with its references replaced by what they refer to, by their defaults where that is
not set, or else by nothing. The fuel bounds the steps. -/
def expandFrom (known : Text -> Option Text) : (fuel : Nat) -> Text -> Text
  | 0, text => text
  | _, [] => []
  | fuel + 1, c :: rest =>
      match if c = '$' then splitReference? rest else none with
      | some (name, default, after) =>
          (((known name).or default).getD []) ++ expandFrom known fuel after
      | none => c :: expandFrom known fuel rest

/-- A value with its references replaced. Every step takes at least one character. -/
def expand (known : Text -> Option Text) (value : Text) : Text :=
  expandFrom known value.length value

/-- The statements of an environment file, in order. Every one takes at least one character, so
the length of the text is fuel enough. -/
def statements (text : Text) : List Statement :=
  statementsFrom (text.count '\n' + 1) text.length (withoutMark text)

/-- The value of a name: among assignments that override the environment or else in it, or the
other way round. A name that stands alone has the empty value. -/
def valueOf? (override : Bool) (environment : Environment)
    (assigned : Dictionary Text (Option Text)) (name : Text) : Option Text :=
  let assignedValue := (Dictionary.find? name assigned).map (·.getD [])
  let setValue := Dictionary.find? name environment
  if override then assignedValue.or setValue else setValue.or assignedValue

/-- Add a statement to the assignments above it, to which its value may refer. -/
def Statement.assign (override : Bool) (environment : Environment)
    (assigned : Dictionary Text (Option Text)) : Statement -> Dictionary Text (Option Text)
  | .assignment name value =>
      Dictionary.assign name (value.map (expand (valueOf? override environment assigned))) assigned
  | _ => assigned

/-- The assignments of statements: each name once, in the order of their first occurrences, with
the last value. A name that last stands alone is not assigned. -/
def assignments (override : Bool) (environment : Environment) (statements : List Statement) :
    List (Text × Text) :=
  (statements.foldl (Statement.assign override environment) []).filterMap fun (name, value) =>
    value.map (name, ·)

/-- The lines of malformed statements. -/
def malformedLines (statements : List Statement) : List Nat :=
  statements.filterMap fun
    | .malformed line => some line
    | _ => none

/-- Why an assignment cannot be made in the environment, if so. -/
def assignmentFault? (name value : Text) : Option Fault :=
  if name.contains '\x00' || value.contains '\x00' then some .nullCharacter
  else if name.contains '=' then some .illegalName
  else none

/-- Make assignments in order, up to one that cannot be made. -/
def assignAll (environment : Environment) : List (Text × Text) -> Environment × Option Fault
  | [] => (environment, none)
  | (name, value) :: rest =>
      match assignmentFault? name value with
      | some fault => (environment, some fault)
      | none => assignAll (Dictionary.assign name value environment) rest

/-- Assignments that can all be made are made, in their order. -/
theorem assignAll_ok {environment assigned : Environment} {entries : List (Text × Text)}
    (done : assignAll environment entries = (assigned, none)) :
    assigned = Dictionary.assignAll entries environment := by
  induction entries generalizing environment with
  | nil =>
      cases done
      rfl
  | cons entry rest inductionHypothesis =>
      obtain ⟨name, value⟩ := entry
      unfold assignAll at done
      split at done
      · cases done
      · exact inductionHypothesis done

/-- The warning about a malformed statement. -/
def complaint (line : Nat) : Logging.Entry :=
  ⟨.warning,
    "python-dotenv could not parse statement starting at line ".toList ++ Text.ofNat line⟩

/-- The remark that environment files are turned off, whether one is named or not. -/
def offRemark : Logging.Entry :=
  ⟨.debug, ("python-dotenv: .env loading disabled by PYTHON_DOTENV_DISABLED environment " ++
    "variable").toList⟩

/-- Load the text of an environment file. -/
def loadText (override : Bool) (environment : Environment) (text : Text) : Loaded :=
  let found := statements text
  let values := assignments override environment found
  let (assigned, fault) := assignAll environment
    (if override then values
      else values.filter fun entry => (Dictionary.find? entry.1 environment).isNone)
  ⟨assigned, (malformedLines found).map complaint, fault⟩

/-- Load what has been found of an environment file. -/
def load (override : Bool) (environment : Environment) (seen : Sighting) : Loaded :=
  if environment.ignoresFiles then ⟨environment, [offRemark], none⟩
  else
    match seen with
    | .nothing => ⟨environment, [], none⟩
    | .refused => ⟨environment, [], some .nullCharacter⟩
    | .content bytes =>
        match Storage.documentOfBytes? bytes with
        | none => ⟨environment, [], some .undecodable⟩
        | some text => loadText override environment text

/-- The library for environment files of this kind, which are searched for at some places. -/
@[reducible] def library (searched : List Storage.Place) : EnvironmentFiles where
  searched
  values override environment text := assignments override environment (statements text)
  load
  load_off override environment seen off := by
    unfold EnvFile.load
    rw [if_pos off]
  load_nothing override environment seen nothing := by
    unfold EnvFile.load
    split
    · rfl
    · cases seen with
      | nothing => rfl
      | refused => rfl
      | content bytes =>
          have undecodable : Storage.documentOfBytes? bytes = none := nothing
          simp only [undecodable]
  load_text override environment seen text active found done := by
    cases seen with
    | nothing => cases found
    | refused => cases found
    | content bytes =>
        have decoded : Storage.documentOfBytes? bytes = some text := found
        simp only [EnvFile.load, active, Bool.false_eq_true, if_false, decoded] at done ⊢
        exact assignAll_ok (Prod.ext rfl done)

end EditorData.Settings.EnvFile

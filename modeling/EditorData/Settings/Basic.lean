import EditorData.Dictionary
import EditorData.Text.Integer
import EditorData.Text.Uppercase

/-!
# Settings

What can differ between runs is taken from the environment, with a default for every
variable that is not set. Numbers are read first, in a fixed order, then each must be
positive, then the address of the reference must have a place for the version.
-/

namespace EditorData

/-- The settings of a run. -/
structure Settings where
  urlTemplate : Text
  documentationRoot : Text
  /-- Seconds to wait for an answer. -/
  timeout : Nat
  /-- How many times a download is tried. -/
  attempts : Nat
  /-- The least number of seconds between two tries. -/
  retryDelay : Nat
  logLevel : Text
  logFile : Option Text
deriving DecidableEq, Repr

namespace Settings

/-- The variables of the environment with their values. -/
abbrev Environment := Dictionary Text Text

/-- Why an environment gives no settings. -/
inductive Fault where
  | notInteger (value : Text)
  /-- A number with more digits than an integer may have. -/
  | tooManyDigits (count : Nat)
  /-- A null character in an assignment, or in the path of the environment file. -/
  | nullCharacter
  /-- An assignment to a name that holds an equal sign. -/
  | illegalName
  | notPositive (name : Text) (value : Int)
  | missingVersion (urlTemplate : Text)
  /-- An environment file that is not UTF-8. -/
  | undecodable
deriving DecidableEq, Repr

/-- The wording of a fault. A long value is cut. -/
def Fault.message : Fault -> Text
  | .notInteger value =>
      "invalid literal for int() with base 10: ".toList ++ (Text.quoted value).take 200
  | .tooManyDigits count => Text.digitLimitMessage count
  | .nullCharacter => "embedded null byte".toList
  | .illegalName => "illegal environment variable name".toList
  | .notPositive name value =>
      "Configuration error: ".toList ++ name ++ " must be positive, got ".toList ++
        Text.ofInt value
  | .missingVersion urlTemplate =>
      "Configuration error: langref_url must contain '\x7bversion\x7d', got ".toList ++
        urlTemplate
  | .undecodable => "the environment file is not UTF-8".toList

/-- The variable for the address of the reference. -/
def urlVariable : Text := "ZLS_GEN_LANGREF_URL".toList

/-- The variable for the root of the online reference. -/
def rootVariable : Text := "ZLS_GEN_DOC_ROOT".toList

/-- The variable for the time to wait for an answer. -/
def timeoutVariable : Text := "ZLS_GEN_REQUEST_TIMEOUT".toList

/-- The variable for the number of tries. -/
def attemptsVariable : Text := "ZLS_GEN_MAX_RETRIES".toList

/-- The variable for the time between two tries. -/
def delayVariable : Text := "ZLS_GEN_RETRY_DELAY".toList

/-- The variable for the log level. -/
def levelVariable : Text := "ZLS_GEN_LOG_LEVEL".toList

/-- The variable for the log file. -/
def logFileVariable : Text := "ZLS_GEN_LOG_FILE".toList

/-- The variable that turns environment files off. -/
def offVariable : Text := "PYTHON_DOTENV_DISABLED".toList

/-- The address of the reference when none is set. -/
def defaultUrlTemplate : Text :=
  "https://raw.githubusercontent.com/ziglang/zig/\x7bversion\x7d/doc/langref.html.in".toList

/-- The root of the online reference when none is set. -/
def defaultRoot : Text :=
  "https://ziglang.org/documentation".toList

/-- The value of a variable, or its default. -/
def Environment.get (environment : Environment) (variableName default : Text) : Text :=
  (Dictionary.find? variableName environment).getD default

/-- Whether environment files are turned off: by a word for truth, in either case. -/
def Environment.ignoresFiles (environment : Environment) : Bool :=
  let word := Text.upper (environment.get offVariable [])
  ["1", "T", "TRUE", "Y", "YES"].contains (String.ofList word)

/-- The integer that a variable holds. -/
def Environment.integer (environment : Environment) (variableName default : Text) :
    Except Fault Int :=
  let value := environment.get variableName default
  match Text.integer value with
  | .ok number => .ok number
  | .error .malformed => .error (.notInteger value)
  | .error (.tooManyDigits count) => .error (.tooManyDigits count)

/-- A setting that must be positive. -/
def positive (name : Text) (value : Int) : Except Fault Nat :=
  if 0 < value then .ok value.toNat else .error (.notPositive name value)

/-- The place for the version in an address. -/
def versionField : Text :=
  "\x7bversion\x7d".toList

/-- The settings of an environment. -/
def ofEnvironment (environment : Environment) : Except Fault Settings := do
  let timeout <- environment.integer timeoutVariable "30".toList
  let attempts <- environment.integer attemptsVariable "3".toList
  let retryDelay <- environment.integer delayVariable "2".toList
  let timeout <- positive "request_timeout".toList timeout
  let attempts <- positive "max_retries".toList attempts
  let retryDelay <- positive "retry_delay".toList retryDelay
  let urlTemplate := environment.get urlVariable defaultUrlTemplate
  if (Text.cut? versionField urlTemplate).isNone then throw (.missingVersion urlTemplate)
  return {
    urlTemplate
    documentationRoot := Text.trimEnd (· == '/') (environment.get rootVariable defaultRoot)
    timeout
    attempts
    retryDelay
    logLevel := Text.upper (environment.get levelVariable "INFO".toList)
    logFile :=
      match environment.get logFileVariable [] with
      | [] => none
      | path => some path }

end Settings

end EditorData

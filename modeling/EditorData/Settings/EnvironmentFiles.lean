import EditorData.Logging.Entry
import EditorData.Settings.Basic
import EditorData.Storage.Document

/-!
# Loading environment files

An environment file assigns values to variables. It is loaded by a library from outside, of
which only what it promises is known: the fields of `EnvironmentFiles` that are statements. A
file that is named overrides the environment. Without one, a file is searched for, and it only
gives values to variables that are not set. The environment itself can turn such files off.
-/

namespace EditorData.Settings

/-- What is found where an environment file should be. -/
inductive Sighting where
  | content (bytes : List UInt8)
  | nothing
  /-- A path that cannot be looked at, since it has a null character. -/
  | refused
deriving DecidableEq, Repr

namespace Sighting

/-- What reading a file finds. -/
def ofReading : Except Storage.Fault (List UInt8) -> Sighting
  | .ok bytes => .content bytes
  | .error fault => if fault.isOfSystem then .nothing else .refused

/-- The text that has been found, if there is a file and it is UTF-8. -/
def text? : Sighting -> Option Text
  | .content bytes => Storage.documentOfBytes? bytes
  | _ => none

end Sighting

/-- What loading an environment file gives: the environment after it, what is complained of, and
why it was not loaded to its end, if so. -/
structure Loaded where
  environment : Environment
  complaints : List Logging.Entry
  fault : Option Fault
deriving DecidableEq, Repr

/-- Assign values to the variables of an environment: to all of them where they override it, or else
to those that are not set. -/
def Environment.assign (override : Bool) (values : List (Text × Text))
    (environment : Environment) : Environment :=
  Dictionary.assignAll
    (if override then values
      else values.filter fun entry => (Dictionary.find? entry.1 environment).isNone) environment

/-- A library for environment files, and what it promises. -/
class EnvironmentFiles where
  /-- The places where a file is searched for if none is named, nearest first. -/
  searched : List Storage.Place
  /-- The values that the text of a file gives to names in an environment. -/
  values : (override : Bool) -> Environment -> Text -> List (Text × Text)
  /-- Load what has been found. -/
  load : (override : Bool) -> Environment -> Sighting -> Loaded
  /-- The environment can turn files off. -/
  load_off : ∀ override environment seen, environment.ignoresFiles = true →
    (load override environment seen).environment = environment
  /-- What is no text assigns nothing, nor does a file that is not there. -/
  load_nothing : ∀ override environment seen, seen.text? = none →
    (load override environment seen).environment = environment
  /-- Otherwise a file that is loaded to its end has assigned the values of its text. -/
  load_text : ∀ override environment seen text, environment.ignoresFiles = false →
    seen.text? = some text → (load override environment seen).fault = none →
    (load override environment seen).environment =
      environment.assign override (values override environment text)

namespace EnvironmentFiles

variable [EnvironmentFiles]

/-- What a search for an environment file finds. -/
def search (storage : Storage) : Sighting :=
  match searched.findSome? fun place =>
      match storage.node? place with
      | some (.file bytes) => some bytes
      | _ => none with
  | some bytes => .content bytes
  | none => .nothing

/-- What is found of the environment file that is named, or of one that is searched for. -/
def seen (storage : Storage) : (envFile : Option Text) -> Sighting
  | none | some [] => search storage
  | some path => .ofReading (storage.read path)

/-- Whether an environment file is named. -/
def isNamed : (envFile : Option Text) -> Bool
  | none | some [] => false
  | some _ => true

end EnvironmentFiles

end EditorData.Settings

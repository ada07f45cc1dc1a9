import EditorData.Settings.EnvironmentFiles

/-!
# Settings over a whole session

Settings are made from the environment, after an environment file has been loaded into it: the
one that is named, or else one that a search finds. What a file has assigned stays, also where it
cannot be loaded to its end. A session keeps the first settings it
was asked for until they are dropped. Every settings object made gets a number of its own,
so that two requests can be seen to give the same one.
-/

namespace EditorData.Settings

/-- Settings with the number under which they were made. -/
structure Issue where
  number : Nat
  settings : Settings
deriving DecidableEq, Repr

/-- The environment, the settings kept, and how many have been made. -/
structure Session where
  environment : Environment
  kept : Option Issue
  issued : Nat
deriving DecidableEq, Repr

/-- What a request gives: the session after it, what it announced, what was reported about
environment files, and the settings. -/
structure Answer where
  session : Session
  log : List Logging.Entry
  complaints : List Logging.Entry
  result : Except Fault Issue

namespace Session

/-- A session without variables and settings. -/
def initial : Session :=
  ⟨[], none, 0⟩

/-- Set a variable, or unset it. -/
def setVariable (session : Session) (name : Text) (value : Option Text) : Session :=
  { session with
    environment :=
      match value with
      | some text => Dictionary.assign name text session.environment
      | none => Dictionary.remove name session.environment }

variable [EnvironmentFiles]

/-- Load the environment file that is named, or else the one that a search finds. -/
def loadFile (session : Session) (storage : Storage) (envFile : Option Text) :
    Session × List Logging.Entry × Option Fault :=
  let loaded := EnvironmentFiles.load (EnvironmentFiles.isNamed envFile) session.environment
    (EnvironmentFiles.seen storage envFile)
  ({ session with environment := loaded.environment }, loaded.complaints, loaded.fault)

/-- Make settings from the environment as it is. -/
def issue (session : Session) (log complaints : List Logging.Entry) : Answer :=
  match ofEnvironment session.environment with
  | .error fault => ⟨session, log, complaints, .error fault⟩
  | .ok settings =>
      ⟨{ session with issued := session.issued + 1 }, log, complaints,
        .ok ⟨session.issued, settings⟩⟩

/-- What is announced before an environment file is loaded, if one is named. -/
def loadReports : (envFile : Option Text) -> List Logging.Entry
  | none | some [] => []
  | some path => [⟨.info, "Loading environment variables from ".toList ++ path⟩]

/-- Make settings, after loading an environment file. -/
def make (session : Session) (storage : Storage) (envFile : Option Text) : Answer :=
  match session.loadFile storage envFile with
  | (loaded, complaints, some fault) => ⟨loaded, loadReports envFile, complaints, .error fault⟩
  | (loaded, complaints, none) => loaded.issue (loadReports envFile) complaints

/-- What a request for settings announces before anything else happens. -/
def announcements (session : Session) (envFile : Option Text) : List Logging.Entry :=
  match session.kept with
  | some _ => []
  | none => loadReports envFile

/-- The settings kept, or new ones to keep. -/
def obtain (session : Session) (storage : Storage) (envFile : Option Text) : Answer :=
  match session.kept with
  | some kept => ⟨session, [], [], .ok kept⟩
  | none =>
      let answer := session.make storage envFile
      match answer.result with
      | .ok made => { answer with session := { answer.session with kept := some made } }
      | .error _ => answer

/-- Drop the settings kept. -/
def reset (session : Session) : Session :=
  { session with kept := none }

end Session

end EditorData.Settings

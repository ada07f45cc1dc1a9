import EditorData.Generation.Failure

/-!
# Jobs

A workspace is what one run leaves to the next: the files, the settings, and where log
entries go. A job is a run at work in a workspace, with what it has shown on the console
and what it has asked of the network.
-/

namespace EditorData.Generation

/-- What lasts from run to run. -/
structure Workspace where
  storage : Storage
  settings : Settings.Session
  logging : Logging.Setup
deriving DecidableEq, Repr

/-- A workspace with these files, in which nothing has been done yet. -/
def Workspace.ofStorage (storage : Storage) : Workspace :=
  ⟨storage, .initial, .initial⟩

/-- A run at work. -/
structure Job extends Workspace where
  /-- What the console has shown. -/
  console : Text
  /-- What the network will answer. -/
  script : List Download.Attempt
  /-- The calls made, in order. -/
  calls : List (Text × Int)
  /-- The seconds waited between calls, in order. -/
  pauses : List Nat
deriving DecidableEq, Repr

namespace Job

/-- A run that begins in a workspace. -/
def start (workspace : Workspace) (script : List Download.Attempt) : Job :=
  { workspace with
    logging := workspace.logging.forLaterRun
    console := []
    script
    calls := []
    pauses := [] }

/-- Report entries in order. -/
def reportAll (job : Job) (entries : List Logging.Entry) : Job :=
  let (storage, shown) := job.logging.write job.storage entries
  { job with storage, console := job.console ++ shown }

/-- Report an entry. -/
def report (job : Job) (entry : Logging.Entry) : Job :=
  job.reportAll [entry]

/-- Show a text on the console that is no log entry. -/
def print (job : Job) (text : Text) : Job :=
  { job with console := job.console ++ text }

/-- Download the reference of a version. -/
def download [Limits] [Settings.EnvironmentFiles] [Download.Retrying] (job : Job)
    (version : Text) : Job × Except Failure Text :=
  let (settings, result, progress) :=
    Download.fetch job.settings job.storage version none none job.script
  let after := { job with
    settings
    script := progress.script
    calls := job.calls ++ progress.calls
    pauses := job.pauses ++ progress.pauses }
  (after.reportAll progress.log, result.mapError .download)

end Job

/-- What is reported about a file that could not be saved: a fault of the system. -/
def saveReports (path : Text) (fault : Storage.Fault) : List Logging.Entry :=
  if fault.isOfSystem then
    [⟨.error, "Error saving file ".toList ++ path ++ ": ".toList ++ fault.message⟩]
  else []

/-- A file to write, with what is reported once it is written. -/
structure Output where
  path : Text
  content : Codes
  report : Text
deriving DecidableEq, Repr

namespace Output

/-- An output at a path, if there is one. -/
def located (path : Option Text) (content : Codes) (report : Text -> Text) :
    Except Failure Output :=
  match path with
  | some path => .ok ⟨path, content, report path⟩
  | none => .error .missingPath

/-- The report of a file that is written as a whole. -/
def wrote (path : Text) : Text :=
  "📝 Wrote ".toList ++ path

/-- Write an output. -/
def save [Limits] (output : Output) (job : Job) : Job × Option Failure :=
  match job.storage.save Limits.outputFolders output.path output.content with
  | (storage, none) => ({ job with storage }.report ⟨.info, output.report⟩, none)
  | (storage, some fault) =>
      ({ job with storage }.reportAll (saveReports output.path fault), some (.storage fault))

end Output

end EditorData.Generation

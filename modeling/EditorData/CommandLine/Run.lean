import EditorData.CommandLine.Arguments
import EditorData.Generation.Step
import EditorData.Version

/-!
# A run of the command

The words are read and the version is looked at before anything is done. Then the settings
are obtained and logging is set up, and after that the steps are performed. A failure of a
step that is worth a report gives the status 1; a refused command line gives 2.
-/

namespace EditorData.CommandLine

open EditorData.Generation

/-- How a run ends. -/
inductive Ending where
  | completed
  /-- A failure that has been reported. -/
  | failed
  | helped
  | refused (fault : UsageFault)
  /-- A failure that nothing handles. -/
  | aborted (failure : Failure)
deriving DecidableEq, Repr

/-- The status of a run, unless it was aborted. -/
def Ending.status? : Ending -> Option Nat
  | .completed | .helped => some 0
  | .failed => some 1
  | .refused _ => some 2
  | .aborted _ => none

/-- The line that a refused command line is answered with. -/
def UsageFault.line (fault : UsageFault) : Text :=
  "zls-gen: error: ".toList ++ fault.message ++ ['\n']

/-- What is shown at the end of a run that has completed. -/
def reminder : Text :=
  ("Changing configuration options may also require editing the `package.json` from " ++
    "zls-vscode at https://github.com/zigtools/zls-vscode/blob/master/package.json\n" ++
    "You can use `--vscode-config-path /path/to/output/file.json` to generate the new " ++
    "configuration properties which you can then copy into `package.json`\n").toList

/-- What is reported on a system that may write carriage returns. -/
def newlineWarning : Logging.Entry :=
  ⟨.warning, "Running on windows may result in CRLF and LF mismatch".toList⟩

namespace Arguments

/-- The path of the data of a version. -/
def versionDataPath (arguments : Arguments) (version : Text) : Option Text :=
  (arguments.given? .versionDataPath).or
    (arguments.dataPath.map fun folder =>
      Storage.Path.join folder (version ++ ".zig".toList))

/-- The steps that the arguments ask for. -/
def steps (arguments : Arguments) : List Step :=
  [.configFile arguments.configPath, .schema arguments.schemaPath,
    .table arguments.readmePath] ++
  ((arguments.given? .editorProperties).map fun path =>
    Step.editorProperties (some path)).toList ++
  ((arguments.given? .version).map fun version =>
    Step.versionData version (arguments.versionDataPath version)
      (arguments.given? .referenceFile)).toList

/-- What a report names as the source of the material. -/
def source (arguments : Arguments) : Text :=
  (((arguments.given? .referenceFile).or (arguments.given? .version)).or
    (arguments.value? .catalogue).join).getD Catalogue.bundledName

/-- Read a command line of which the version, if there is one, is valid. -/
def ofWords (words : List Text) : Except Stop Arguments :=
  match Arguments.ofTexts words with
  | .error stop => .error stop
  | .ok arguments =>
      match arguments.given? .version with
      | none => .ok arguments
      | some version =>
          if Version.isValid version then .ok arguments
          else .error (.fault (.invalidVersion version))

end Arguments

variable [Limits] [Settings.EnvironmentFiles] [Download.Retrying]

/-- The settings of a run. An environment file asks for new ones, and is announced before it is
read. -/
def obtainSettings (arguments : Arguments) (job : Job) :
    Job × Except Failure Settings :=
  let file := arguments.given? .environmentFile
  let session := if file.isSome then job.settings.reset else job.settings
  let announced := job.reportAll (session.announcements file)
  let answer := session.obtain announced.storage file
  ({ announced with settings := answer.session }.reportAll answer.complaints,
    match answer.result with
    | .ok issue => .ok issue.settings
    | .error fault => .error (.settings fault))

/-- Set logging up by the arguments, or else by the settings. -/
def setUpLogging (arguments : Arguments) (settings : Settings) (job : Job) :
    Job × Option Failure :=
  let (storage, logging, fault) :=
    job.logging.configure job.storage
      ((arguments.given? .logLevel).getD settings.logLevel)
      ((arguments.given? .logFile).or settings.logFile)
  ({ job with storage, logging }, fault.map .logging)

/-- What a run needs before its first step. -/
def prepare (arguments : Arguments) (job : Job) : Job × Option Failure :=
  match obtainSettings arguments job with
  | (obtained, .error failure) => (obtained, some failure)
  | (obtained, .ok settings) => setUpLogging arguments settings obtained

/-- Load the catalogue and perform the steps. -/
def generate (arguments : Arguments) (job : Job) : Job × Option Failure :=
  match loadCatalogue job (arguments.value? .catalogue) with
  | (loaded, .error failure) => (loaded, some failure)
  | (loaded, .ok options) =>
      performLoaded options loaded arguments.configPath arguments.steps

/-- End a run of which all steps are done. -/
def conclude (onWindows : Bool) (job : Job) : Job :=
  (if onWindows then job.report newlineWarning else job).print reminder

/-- The run of the command with its arguments. -/
def runWith (arguments : Arguments) (onWindows : Bool) (job : Job) : Job × Ending :=
  match prepare arguments job with
  | (prepared, some failure) => (prepared, .aborted failure)
  | (prepared, none) =>
      match generate arguments prepared with
      | (done, none) => (conclude onWindows done, .completed)
      | (stopped, some failure) =>
          match failure.report? arguments.source with
          | some message => (stopped.report ⟨.error, message⟩, .failed)
          | none => (stopped, .aborted failure)

/-- A run of the command in a workspace. -/
def run (workspace : Workspace) (onWindows : Bool) (script : List Download.Attempt)
    (words : List Text) : Job × Ending :=
  let job := Job.start workspace script
  match Arguments.ofWords words with
  | .error .help => (job, .helped)
  | .error (.fault fault) => (job.print fault.line, .refused fault)
  | .ok arguments => runWith arguments onWindows job

end EditorData.CommandLine

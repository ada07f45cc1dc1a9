import EditorData.Catalogue.Bundled
import EditorData.Catalogue.ConfigFile
import EditorData.Catalogue.EditorProperties
import EditorData.Catalogue.Schema
import EditorData.Catalogue.Table
import EditorData.Generation.Job
import EditorData.Reference.Snapshot
import EditorData.ZigSource.VersionData

/-!
# Steps of a run

Each step renders one output completely before the file is touched. Steps are performed in
order up to the first one that fails, so a failure leaves the outputs of all later steps as they
were, and that of its step too, unless the file has been opened for a text without bytes. Only the
first step, the Zig file, can have such a text: options with a surrogate in them get no further
(`performUnencodable`).
-/

namespace EditorData.Generation

/-- A step, with the path of its output. -/
inductive Step where
  | configFile (path : Option Text)
  | schema (path : Option Text)
  /-- The table of options, which is put into the file that is there. -/
  | table (path : Option Text)
  | editorProperties (path : Option Text)
  /-- The data of a version, from a snapshot of the reference or else from the network. -/
  | versionData (version : Text) (path : Option Text) (snapshot : Option Text)
deriving DecidableEq, Repr

variable [Limits] [Settings.EnvironmentFiles] [Download.Retrying]

/-- The reference of a version. -/
def obtainReference (job : Job) (version : Text) (snapshot : Option Text) :
    Job × Except Failure Text :=
  match snapshot with
  | none => job.download version
  | some path =>
      let announced := job.report (Reference.snapshotReport path)
      (announced, (Reference.readSnapshot announced.storage path).mapError .ofDocument)

/-- The root of the online reference by the settings. -/
def documentationRoot (job : Job) : Job × Except Failure Text :=
  let answer := job.settings.obtain job.storage none
  ({ job with settings := answer.session },
    match answer.result with
    | .ok issue => .ok issue.settings.documentationRoot
    | .error fault => .error (.settings fault))

/-- What is reported about the data of a version. -/
def versionDataReport (count : Nat) (version path : Text) : Text :=
  "📝 Wrote ".toList ++ Text.ofNat count ++ " builtins for ".toList ++ version ++
    " to ".toList ++ path

/-- Render the data of a version. -/
def renderVersionData (job : Job) (version path : Text) (snapshot : Option Text) :
    Job × Except Failure Output :=
  match obtainReference job version snapshot with
  | (obtained, .error failure) => (obtained, .error failure)
  | (obtained, .ok document) =>
      match documentationRoot obtained with
      | (ready, .error failure) => (ready, .error failure)
      | (ready, .ok root) =>
          let outcome := Reference.extract ⟨version, root, Reference.sectionAnchor⟩ document
          (ready.reportAll outcome.log,
            match outcome.finished with
            | .error fault => .error (.reference fault)
            | .ok builtins =>
                .ok ⟨path, Text.codes (ZigSource.renderVersionData builtins version),
                  versionDataReport builtins.length version path⟩)

/-- Render the table of options into the README. -/
def renderReadme (job : Job) (entries : List Catalogue.Entry) (path : Text) :
    Except Failure Output :=
  match job.storage.readDocument path with
  | .error fault => .error (.ofDocument fault)
  | .ok readme =>
      match Catalogue.updateReadme readme entries with
      | .error fault => .error (.readme fault)
      | .ok updated =>
          .ok ⟨path, Text.codes updated, "📝 Updated options table in ".toList ++ path⟩

/-- Render the output of a step. -/
def Step.render (entries : List Catalogue.Entry) (job : Job) : Step ->
    Job × Except Failure Output
  | .configFile path =>
      (job, Output.located path (Text.codes (Catalogue.renderConfigFile entries)) Output.wrote)
  | .schema path =>
      (job,
        match Catalogue.renderSchema entries with
        | .error fault => .error (.entry fault)
        | .ok content => Output.located path (Text.codes content) Output.wrote)
  | .table none => (job, .error .missingPath)
  | .table (some path) => (job, renderReadme job entries path)
  | .editorProperties path =>
      (job,
        match Catalogue.renderEditorProperties entries with
        | .error fault => .error (.entry fault)
        | .ok content => Output.located path (Text.codes content) Output.wrote)
  | .versionData _ none _ => (job, .error .missingPath)
  | .versionData version (some path) snapshot => renderVersionData job version path snapshot

/-- Perform a step: render its output, then write it. -/
def Step.perform (entries : List Catalogue.Entry) (job : Job) (step : Step) :
    Job × Option Failure :=
  match step.render entries job with
  | (rendered, .error failure) => (rendered, some failure)
  | (rendered, .ok output) => output.save rendered

/-- Perform steps in order, up to the first failure. -/
def performAll (entries : List Catalogue.Entry) (job : Job) : List Step -> Job × Option Failure
  | [] => (job, none)
  | step :: rest =>
      match step.perform entries job with
      | (stopped, some failure) => (stopped, some failure)
      | (done, none) => performAll entries done rest

/-- Perform the first step with options that are not all of texts. The Zig file would hold their
surrogates, so it cannot be written, and no other step is reached. -/
def performUnencodable (options : List (Catalogue.Entry CodePoint)) (job : Job)
    (path : Option Text) : Job × Option Failure :=
  match Output.located path (Catalogue.renderConfigFile options) Output.wrote with
  | .error failure => (job, some failure)
  | .ok output => output.save job

/-- Perform steps with the options as they were loaded. -/
def performLoaded (options : List (Catalogue.Entry CodePoint)) (job : Job)
    (configPath : Option Text) (steps : List Step) : Job × Option Failure :=
  match Catalogue.ofCodes? options with
  | some entries => performAll entries job steps
  | none => performUnencodable options job configPath

/-- The catalogue at a path. -/
def readCatalogue (storage : Storage) (path : Text) :
    Except Failure (List Catalogue.Listed) :=
  match storage.readDocument path with
  | .error fault => .error (.ofDocument fault)
  | .ok text => (Catalogue.ofText Limits.catalogueRoom text).mapError .catalogue

/-- Load the catalogue that was asked for, of which the path may be missing, or else the bundled
one. That the members of its options are strings is found out only after it has been reported as
loaded. -/
def loadCatalogue (job : Job) (asked : Option (Option Text)) :
    Job × Except Failure (List (Catalogue.Entry CodePoint)) :=
  match asked with
  | some none => (job, .error .missingPath)
  | none =>
      (job.report (Catalogue.loadReport Catalogue.bundled.length Catalogue.bundledName),
        .ok (Catalogue.bundled.map Catalogue.Entry.codes))
  | some (some path) =>
      match readCatalogue job.storage path with
      | .error failure => (job, .error failure)
      | .ok options =>
          (job.report (Catalogue.loadReport options.length path),
            match Catalogue.entries? options with
            | some entries => .ok entries
            | none => .error .memberNotText)

end EditorData.Generation

import EditorData.CommandLine.Machine
import EditorData.Proofs.Catalogue.Surrogates
import EditorData.Proofs.Generation.Stages
import EditorData.Proofs.Settings.Caching

/-!
# A run writes whole outputs or none

A run whose words, settings and logging are in order loads the catalogue and performs its steps,
in their order (`Planned`), up to the first one that fails (`Course`). What it leaves are the
complete outputs of the steps before that one, and every other file is as it was, apart from log
files (`Atomic`). How it ends tells whether a step has failed, and why. A version that is none is
refused before any file is touched (`run_atomic`).

There is one exception, the options of a catalogue with a surrogate in one of their texts. The Zig
file of such options has no form in UTF-8, which is found out when it has been opened: what was in
it is lost (`Truncates`).
-/

namespace EditorData.CommandLine

open EditorData.Generation
open Storage (AgreeOutside Alike)

/-- The places of log files: that of the last run in the workspace, and that of this one. -/
def logPlaces (workspace : Workspace) (prepared : Job) : List Storage.Place :=
  workspace.logging.places ++ prepared.logging.places

section Obtaining

variable [Settings.EnvironmentFiles]

/-- Obtaining settings, a run does nothing to its files but report, and its logging stays. -/
theorem obtainSettings_alike (arguments : Arguments) {job : Job}
    (stands : job.logging.Stands job.storage) :
    Alike job.logging.places job.storage (obtainSettings arguments job).1.storage ∧
      (obtainSettings arguments job).1.logging = job.logging := by
  unfold obtainSettings
  refine ⟨(Logging.Setup.write_alike stands _).trans (Logging.Setup.write_alike ?_ _), rfl⟩
  exact (Logging.Setup.write_agree stands _).2

/-- Obtaining the settings of a run keeps them, and leaves the answers of the network for later. -/
theorem obtainSettings_ok {arguments : Arguments} {job obtained : Job} {settings : Settings}
    (done : obtainSettings arguments job = (obtained, .ok settings)) :
    (∃ number, obtained.settings.kept = some ⟨number, settings⟩) ∧
      obtained.script = job.script := by
  unfold obtainSettings at done
  obtain ⟨same, result⟩ := Prod.mk.inj done
  subst same
  refine ⟨?_, rfl⟩
  split at result
  · next issue made =>
      cases result
      exact ⟨issue.number, Settings.Session.kept_of_obtain made⟩
  · cases result

end Obtaining

section Loading

variable [Limits]

/-- Setting logging up, a run changes nothing but its files and its logging. -/
theorem setUpLogging_eq_none_iff {arguments : Arguments} {settings : Settings}
    {job prepared : Job} :
    setUpLogging arguments settings job = (prepared, none) ↔
      ∃ storage logging, job.logging.configure job.storage
          ((arguments.given? .logLevel).getD settings.logLevel)
          ((arguments.given? .logFile).or settings.logFile) = (storage, logging, none) ∧
        prepared = { job with storage, logging } := by
  unfold setUpLogging
  constructor
  · intro done
    split at done
    next storage logging fault configured =>
      obtain ⟨same, noFault⟩ := Prod.mk.inj done
      rw [Option.map_eq_none_iff] at noFault
      subst noFault
      exact ⟨storage, logging, configured, same.symm⟩
  · rintro ⟨storage, logging, configured, rfl⟩
    rw [configured]
    rfl

/-- Logging that has been set up stands, and no other file than its log file has changed. -/
theorem setUpLogging_ok {arguments : Arguments} {settings : Settings} {job prepared : Job}
    (done : setUpLogging arguments settings job = (prepared, none)) :
    AgreeOutside prepared.logging.places job.storage prepared.storage ∧
      prepared.logging.Stands prepared.storage ∧ prepared.settings = job.settings ∧
      prepared.script = job.script := by
  obtain ⟨storage, logging, configured, rfl⟩ := setUpLogging_eq_none_iff.mp done
  obtain ⟨agree, stands⟩ := Logging.Setup.configure_agree configured
  exact ⟨agree, stands, rfl, rfl⟩

/-- Loading the catalogue, a run does nothing to its files but report, and leaves the answers of the
network for later. -/
theorem loadCatalogue_reported {settings : Settings} {logs : List Storage.Place} {job : Job}
    (ready : Ready settings logs job) (asked : Option (Option Text)) :
    Reported job (loadCatalogue job asked).1 ∧ (loadCatalogue job asked).1.script = job.script := by
  cases asked with
  | none => exact ⟨reportAll_reported ready _, rfl⟩
  | some path =>
      cases path with
      | none => exact ⟨.refl job, rfl⟩
      | some path =>
          simp only [loadCatalogue]
          split
          · exact ⟨.refl job, rfl⟩
          · exact ⟨reportAll_reported ready _, rfl⟩

end Loading

section Preparing

variable [Limits] [Settings.EnvironmentFiles]

/-- A run has been prepared when its settings have been obtained and its logging has been set up by
them. -/
theorem prepare_eq_none_iff {arguments : Arguments} {job prepared : Job} :
    prepare arguments job = (prepared, none) ↔
      ∃ obtained settings, obtainSettings arguments job = (obtained, .ok settings) ∧
        setUpLogging arguments settings obtained = (prepared, none) := by
  unfold prepare
  constructor
  · intro done
    split at done
    · cases done
    · next obtained settings obtaining => exact ⟨obtained, settings, obtaining, done⟩
  · rintro ⟨obtained, settings, obtaining, done⟩
    rw [obtaining]
    exact done

/-- What has been prepared is ready for the steps, and no other files than log files have
changed. -/
theorem prepare_ready {workspace : Workspace} {script : List Download.Attempt}
    {arguments : Arguments} {prepared : Job}
    (stands : workspace.logging.Stands workspace.storage)
    (done : prepare arguments (Job.start workspace script) = (prepared, none)) :
    ∃ settings, Ready settings (logPlaces workspace prepared) prepared ∧
      AgreeOutside (logPlaces workspace prepared) workspace.storage prepared.storage ∧
      prepared.script = script := by
  obtain ⟨obtained, settings, obtaining, settingUp⟩ := prepare_eq_none_iff.mp done
  obtain ⟨kept, unasked⟩ := obtainSettings_ok obtaining
  have standsAtStart : (Job.start workspace script).logging.Stands
      (Job.start workspace script).storage := stands
  have before := (obtainSettings_alike arguments standsAtStart).1.agree
  rw [obtaining] at before
  obtain ⟨behind, standsThen, same, script⟩ := setUpLogging_ok settingUp
  refine ⟨settings, ⟨by rw [same]; exact kept, ?_, standsThen⟩, ?_, script.trans unasked⟩
  · exact List.subset_append_right _ _
  · exact (before.mono (List.subset_append_left _ _)).trans
      (behind.mono (List.subset_append_right _ _))

end Preparing

/-- Only the last step that arguments ask for may ask the network. -/
theorem steps_ordered (arguments : Arguments) :
    arguments.steps.Pairwise fun earlier _ => earlier.isLocal := by
  unfold Arguments.steps
  cases arguments.given? .editorProperties <;> cases arguments.given? .version <;>
    simp [Step.isLocal]

/-- Whether a failure is one of the material or of the system: an option without a type of JSON, a
README without markers, a reference that is not as it should be, a refused download, or a file that
cannot be used for a reason with a number. -/
def isReported : Failure -> Bool
  | .entry (.unsupportedType _) | .readme _ | .reference _ => true
  | .download (.failed ..) | .download (.system _) => true
  | .storage fault => fault.cause ∉ [.nullCharacter, .tooDeep, .unencodable]
  | _ => false

/-- How a run ends by the failure of its steps: with the status 0 if there is none, with the
status 1 if it is one of the material or of the system, and otherwise with the failure itself. -/
structure EndsBy (outcome : Option Failure) (ending : Ending) : Prop where
  success : ending.status? = some 0 ↔ outcome = none
  reported : ending.status? = some 1 ↔ ∃ failure, outcome = some failure ∧ isReported failure
  aborted : ∀ failure, outcome = some failure → isReported failure = false →
    ending = .aborted failure

/-- A run without a failure is completed. -/
theorem EndsBy.completed : EndsBy none .completed :=
  ⟨by simp [Ending.status?], by simp [Ending.status?], by simp⟩

/-- A run has failed when its failure has been reported. -/
theorem EndsBy.failed {failure : Failure} (reported : isReported failure) :
    EndsBy (some failure) .failed :=
  ⟨by simp [Ending.status?], by simp [Ending.status?, reported], by simp [reported]⟩

section Opening

variable [Limits]

/-- The Zig file can be opened: a path is given for it, and the empty text can be saved there. -/
def Opens (job : Job) (path : Option Text) : Prop :=
  ∃ given, path = some given ∧ (job.storage.save Limits.outputFolders given []).2 = none

end Opening

/-- What a run has written are the whole outputs of its stages, and the outputs of all other steps
are as they were. -/
structure Atomic (workspace : Workspace) (arguments : Arguments) (prepared : Job)
    (stages : List Stage) (after : Storage) : Prop where
  written : Overwritten (logPlaces workspace prepared) workspace.storage stages after
  untouched : ∀ step ∈ arguments.steps.drop stages.length, ∀ path, step.path? = some path →
    after.file? (workspace.storage.placeOf path) =
      workspace.storage.file? (workspace.storage.placeOf path)

/-- Where a run has written nothing but log files, no output has changed. -/
theorem Atomic.nil {workspace : Workspace} {arguments : Arguments} {prepared : Job}
    {after : Storage}
    (apart : Apart workspace.storage (logPlaces workspace prepared) arguments.steps)
    (unwritten : Overwritten (logPlaces workspace prepared) workspace.storage [] after) :
    Atomic workspace arguments prepared [] after :=
  ⟨unwritten, fun step within _ given => unwritten.others _
    (apart.noLogs _ (List.mem_filterMap.mpr ⟨step, within, given⟩)) (by simp)⟩

section Runs

variable [Limits] [Settings.EnvironmentFiles] [Download.Retrying]

/-- How a prepared run goes on until its files are `after`. Either the catalogue cannot be loaded,
or its steps are conducted with the options that it gives. Options that are not all of texts stop it
at the Zig file, which is left empty if it can be opened. -/
inductive Course (workspace : Workspace) (arguments : Arguments) (prepared : Job)
    (settings : Settings) (after : Storage) :
    (stages : List Stage) -> (outcome : Option Failure) -> Prop where
  | uncatalogued {loaded : Job} {failure : Failure}
      (loading : loadCatalogue prepared (arguments.value? .catalogue) = (loaded, .error failure))
      (unwritten : Overwritten (logPlaces workspace prepared) workspace.storage [] after) :
      Course workspace arguments prepared settings after [] (some failure)
  | unopened {loaded : Job} {options : List (Catalogue.Entry CodePoint)} {failure : Failure}
      (loading : loadCatalogue prepared (arguments.value? .catalogue) = (loaded, .ok options))
      (noTexts : Catalogue.ofCodes? options = none)
      (stopped : (performUnencodable options loaded arguments.configPath).2 = some failure)
      (closed : ¬ Opens loaded arguments.configPath)
      (unwritten : Overwritten (logPlaces workspace prepared) workspace.storage [] after) :
      Course workspace arguments prepared settings after [] (some failure)
  | emptied {loaded : Job} {options : List (Catalogue.Entry CodePoint)} {path : Text}
      (loading : loadCatalogue prepared (arguments.value? .catalogue) = (loaded, .ok options))
      (noTexts : Catalogue.ofCodes? options = none) (given : arguments.configPath = some path)
      (opens : Opens loaded arguments.configPath)
      (left : after.file? (workspace.storage.placeOf path) = some [])
      (others : AgreeOutside (workspace.storage.placeOf path :: logPlaces workspace prepared)
        workspace.storage after) :
      Course workspace arguments prepared settings after []
        (some (.storage ⟨.unencodable, path⟩))
  | conducted {loaded : Job} {options : List (Catalogue.Entry CodePoint)}
      {entries : List Catalogue.Entry} {stages : List Stage} {outcome : Option Failure}
      (loading : loadCatalogue prepared (arguments.value? .catalogue) = (loaded, .ok options))
      (texts : Catalogue.ofCodes? options = some entries)
      (conducted : Conducted ⟨settings, prepared.script, entries⟩ (logPlaces workspace prepared)
        workspace.storage loaded arguments.steps stages outcome after) :
      Course workspace arguments prepared settings after stages outcome

namespace Course

variable {workspace : Workspace} {arguments : Arguments} {prepared last : Job}
  {settings : Settings} {after : Storage} {stages : List Stage} {outcome : Option Failure}

/-- A run leaves the outputs of the steps behind the one that stopped it as they were. -/
theorem untouched (course : Course workspace arguments prepared settings after stages outcome)
    (apart : Apart workspace.storage (logPlaces workspace prepared) arguments.steps) {step : Step}
    (within : step ∈ arguments.steps.drop (stages.length + 1)) {path : Text}
    (given : step.path? = some path) :
    after.file? (workspace.storage.placeOf path) =
      workspace.storage.file? (workspace.storage.placeOf path) := by
  have behind : step ∈ arguments.steps.drop stages.length := by
    rw [← List.drop_drop] at within
    exact List.mem_of_mem_drop within
  cases course with
  | uncatalogued loading unwritten =>
      exact (Atomic.nil apart unwritten).untouched step behind path given
  | unopened loading noTexts stopped closed unwritten =>
      exact (Atomic.nil apart unwritten).untouched step behind path given
  | @emptied loaded options config loading noTexts configGiven opens left others =>
      -- The outputs of the later steps go to other places than the Zig file.
      have outputs : Apart workspace.storage (logPlaces workspace prepared)
          ([.configFile arguments.configPath] ++ arguments.steps.drop 1) := apart
      refine others.files _ (List.not_mem_cons_of_ne_of_not_mem ?_ ?_)
      · exact (outputs.different (List.mem_singleton_self _) within configGiven given).symm
      · exact apart.noLogs path (List.mem_filterMap.mpr ⟨step, behind, given⟩)
  | conducted loading texts conducted => exact conducted.untouched apart behind given

/-- Log files may change at the end of a run. -/
theorem ahead {later : Storage}
    (course : Course workspace arguments prepared settings after stages outcome)
    (apart : Apart workspace.storage (logPlaces workspace prepared) arguments.steps)
    (agree : AgreeOutside (logPlaces workspace prepared) after later) :
    Course workspace arguments prepared settings later stages outcome := by
  cases course with
  | uncatalogued loading unwritten =>
      exact .uncatalogued loading (unwritten.ahead (by simp) agree)
  | unopened loading noTexts stopped closed unwritten =>
      exact .unopened loading noTexts stopped closed (unwritten.ahead (by simp) agree)
  | @emptied loaded options path loading noTexts given opens left others =>
      have noLog := apart.noLogs path
        (List.mem_filterMap.mpr ⟨.configFile arguments.configPath, List.mem_cons_self, given⟩)
      exact .emptied loading noTexts given opens ((agree.files _ noLog).trans left)
        (others.trans (agree.mono (List.subset_cons_self _ _)))
  | conducted loading texts conducted =>
      exact .conducted loading texts (conducted.ahead apart agree)

end Course

end Runs

/-- The words for a run with three outputs and a log file. -/
def loggedWords : List Text :=
  [['c'], ['s'], ['r'], ['d'], "--log-file".toList, ['l']]

/-- What these words say. -/
def loggedArguments : Arguments :=
  ⟨some ['c'], some ['s'], some ['r'], some ['d'], [(.logFile, some ['l'])]⟩

section Command

attribute [local instance] machine environmentFiles retrying

end Command

end EditorData.CommandLine

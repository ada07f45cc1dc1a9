import EditorData.Proofs.CommandLine.Atomicity
import EditorData.Proofs.Generation.Repetition
import EditorData.Proofs.Logging.Reopening
import EditorData.Proofs.Settings.Repetition

/-!
# A run repeated

A run that has been completed leaves everything that it needed (`Completed`): where it is repeated,
it obtains the same settings, finds its log file, loads the same catalogue, and can perform its
steps. So it is completed again, and every file comes out as it was, unless the end marker of the
table in the README is in a text of an option (`run_repeated`).
-/

namespace EditorData.CommandLine

open EditorData.Generation
open Storage (AgreeOutside Alike Grows)

variable {arguments : Arguments} {settings : Settings} {job first second prepared loaded : Job}
  {logs : List Storage.Place}

/-- The session that a run asks for its settings. -/
def requested (arguments : Arguments) (job : Job) : Settings.Session :=
  if (arguments.given? .environmentFile).isSome then job.settings.reset else job.settings

/-- A run that has announced the environment file that it is going to read. -/
def announced (arguments : Arguments) (job : Job) : Job :=
  job.reportAll ((requested arguments job).announcements (arguments.given? .environmentFile))

/-- The value of an option that counts as given is not empty. -/
theorem given?_ne_nil (arguments : Arguments) (option : ValueOption) :
    arguments.given? option ≠ some [] := by
  intro given
  have nonempty := (Option.filter_eq_some_iff.mp given).2
  cases nonempty

/-- Ending a run, it does nothing to its files but report. -/
theorem conclude_reported (ready : Ready settings logs job) (onWindows : Bool) :
    Reported job (conclude onWindows job) := by
  cases onWindows with
  | false => exact ⟨rfl, rfl, .refl _ _⟩
  | true =>
      have reported := reportAll_reported ready [newlineWarning]
      exact ⟨reported.kept, reported.logging, reported.alike⟩

/-- The paths of the files that arguments name only for reading. -/
def Arguments.inputs (arguments : Arguments) : List Text :=
  (arguments.value? .catalogue).join.toList ++
    ((arguments.given? .referenceFile).map Storage.Path.tidy).toList ++
    (arguments.given? .environmentFile).toList

/-- The path of the log file of a run that has been prepared, if there is one. -/
def logFile? (arguments : Arguments) (prepared : Job) : Option Text :=
  (arguments.given? .logFile).or
    (prepared.settings.kept.bind fun issue => issue.settings.logFile)

/-- The environment file that is named is among the files that are only read. -/
theorem mem_inputs_of_environmentFile {path : Text}
    (given : arguments.given? .environmentFile = some path) : path ∈ arguments.inputs :=
  List.mem_append_right _ (by simp [given])

/-- A snapshot that a step reads is among the files that are only read. -/
theorem mem_inputs_of_snapshot {step : Step} {path : Text} (within : step ∈ arguments.steps)
    (source : step.snapshot? = some path) : path ∈ arguments.inputs := by
  unfold Arguments.steps at within
  rcases List.mem_append.mp within with front | last
  · rcases List.mem_append.mp front with fixed | extension
    · simp only [List.mem_cons, List.not_mem_nil, or_false] at fixed
      rcases fixed with rfl | rfl | rfl <;> cases source
    · simp only [Option.mem_toList, Option.map_eq_some_iff] at extension
      obtain ⟨given, -, rfl⟩ := extension
      cases source
  · simp only [Option.mem_toList, Option.map_eq_some_iff] at last
    obtain ⟨version, -, rfl⟩ := last
    simp only [Step.snapshot?] at source
    exact List.mem_append_left _ (List.mem_append_right _ (by simp [source]))

/-- The table goes to the README. -/
theorem mem_steps_table_iff {path : Option Text} :
    Step.table path ∈ arguments.steps ↔ path = arguments.readmePath := by
  unfold Arguments.steps
  simp

/-- Among the steps of a run, whose outputs are apart, the one that makes the table is the one whose
output is at the place of the README. -/
theorem isTable_iff {storage : Storage} {logs : List Storage.Place} {step : Step} {path : Text}
    (apart : Apart storage logs arguments.steps) (within : step ∈ arguments.steps)
    (given : step.path? = some path) :
    (∃ named, step = .table named) ↔
      arguments.readmePath.map storage.placeOf = some (storage.placeOf path) := by
  constructor
  · rintro ⟨named, rfl⟩
    obtain rfl : named = some path := given
    rw [← mem_steps_table_iff.mp within]
    rfl
  · intro isReadme
    obtain ⟨readme, named, samePlace⟩ := Option.map_eq_some_iff.mp isReadme
    have withinTable : Step.table (some readme) ∈ arguments.steps :=
      mem_steps_table_iff.mpr named.symm
    exact ⟨some readme, apart.eq_of_place within withinTable given rfl samePlace.symm⟩

/-- A workspace in which a run is repeated: the files are as the run has left them and the
environment is as it was before it. The settings kept and the logging are as they were before the
run, or as it has left them. -/
structure Repeats (workspace : Workspace) (left : Job) (again : Workspace) : Prop where
  storage : again.storage = left.storage
  environment : again.settings.environment = workspace.settings.environment
  kept : again.settings.kept = workspace.settings.kept ∨ again.settings.kept = left.settings.kept
  logging : again.logging = workspace.logging ∨ again.logging = left.logging

/-- A run can be repeated with nothing but the files that it has left. -/
theorem Repeats.afresh (workspace : Workspace) (left : Job) :
    Repeats workspace left { workspace with storage := left.storage } :=
  ⟨rfl, rfl, .inl rfl, .inl rfl⟩

section Obtaining

variable [Settings.EnvironmentFiles]

/-- The settings of a run are those that its session gives. -/
theorem obtainSettings_eq_ok_iff :
    (obtainSettings arguments job).2 = .ok settings ↔
      ((requested arguments job).obtain (announced arguments job).storage
        (arguments.given? .environmentFile)).result.map Settings.Issue.settings =
          .ok settings := by
  unfold obtainSettings
  cases found : ((requested arguments job).obtain (announced arguments job).storage
      (arguments.given? .environmentFile)).result with
  | ok issue =>
      unfold announced requested at found
      simp [found, Except.map]
  | error fault =>
      unfold announced requested at found
      simp [found, Except.map]

/-- The same is found of an environment file as before it is announced, if the files that are looked
at are no log files. -/
theorem seen_announced (stands : job.logging.Stands job.storage)
    (named : ∀ path, arguments.given? .environmentFile = some path →
      job.storage.placeOf path ∉ job.logging.places)
    (unnamed : arguments.given? .environmentFile = none →
      ∀ place ∈ Settings.EnvironmentFiles.searched, place ∉ job.logging.places) :
    Settings.EnvironmentFiles.seen (announced arguments job).storage
        (arguments.given? .environmentFile) =
      Settings.EnvironmentFiles.seen job.storage (arguments.given? .environmentFile) := by
  have alike : Alike job.logging.places job.storage (announced arguments job).storage :=
    Logging.Setup.write_alike stands _
  cases given : arguments.given? .environmentFile with
  | none =>
      exact Settings.EnvironmentFiles.search_again fun place searched =>
        alike.agree.files place (unnamed given place searched)
  | some path =>
      cases path with
      | nil => exact absurd given (given?_ne_nil arguments .environmentFile)
      | cons c rest =>
          exact congrArg Settings.Sighting.ofReading (alike.read (named _ given))

/-- The settings that have been obtained are obtained again in the same environment, if the same is
found of an environment file. -/
theorem obtainSettings_again
    (obtained : (obtainSettings arguments first).2 = .ok settings)
    (environment : second.settings.environment = first.settings.environment)
    (kept : second.settings.kept = first.settings.kept ∨
      ∃ number, second.settings.kept = some ⟨number, settings⟩)
    (seen : Settings.EnvironmentFiles.seen (announced arguments second).storage
        (arguments.given? .environmentFile) =
      Settings.EnvironmentFiles.seen (announced arguments first).storage
        (arguments.given? .environmentFile)) :
    (obtainSettings arguments second).2 = .ok settings := by
  rw [obtainSettings_eq_ok_iff] at obtained ⊢
  refine Settings.Session.obtain_again obtained ?_ ?_ seen
  · unfold requested
    split <;> exact environment
  · unfold requested
    split
    · exact .inl rfl
    · exact kept

/-- The paths of a run denote different files: the outputs go to different places, none of which is
that of a file that is only read, and none of these is the place of a log file. The environment file
is there, or its path does not go up, so that it stays what it is when folders are made. Where none
is named, the places where one is searched for are neither of outputs nor of log files. If the path
of the folder of the log file ends in a name that stays in place, it shows a folder once the log
file has been opened. -/
structure Separate (workspace : Workspace) (prepared : Job) (arguments : Arguments) : Prop where
  outputs : Apart workspace.storage (logPlaces workspace prepared) arguments.steps
  inputs : ∀ path ∈ arguments.inputs,
    workspace.storage.placeOf path ∉ logPlaces workspace prepared ∧
      ∀ output ∈ arguments.steps.filterMap Step.path?,
        workspace.storage.placeOf output ≠ workspace.storage.placeOf path
  environment : ∀ path, arguments.given? .environmentFile = some path →
    workspace.storage.Shows path .file ∨ ['.', '.'] ∉ Storage.Path.names path
  searched : arguments.given? .environmentFile = none →
    ∀ place ∈ Settings.EnvironmentFiles.searched, place ∉ logPlaces workspace prepared ∧
      ∀ output ∈ arguments.steps.filterMap Step.path?, workspace.storage.placeOf output ≠ place
  logFolder : ∀ path, logFile? arguments prepared = some path →
    Storage.Path.name (Storage.Path.folder path) = ['.'] →
      prepared.storage.Shows (Storage.Path.folder path) .folder

/-- The steps of a run are detached where its paths denote different files. -/
theorem Separate.detached {workspace : Workspace}
    (separate : Separate workspace prepared arguments) :
    Detached workspace.storage (logPlaces workspace prepared) arguments.steps :=
  ⟨separate.outputs, fun _ within path source =>
    separate.inputs path (mem_inputs_of_snapshot within source)⟩

/-- The environment file of a run is seen again as long as it has not been written. -/
theorem seen_again {workspace again : Workspace} (separate : Separate workspace prepared arguments)
    (grows : Grows workspace.storage again.storage)
    (unwritten : ∀ path ∈ arguments.inputs,
      again.storage.file? (workspace.storage.placeOf path) =
        workspace.storage.file? (workspace.storage.placeOf path))
    (unsearched : arguments.given? .environmentFile = none →
      ∀ place ∈ Settings.EnvironmentFiles.searched,
        again.storage.file? place = workspace.storage.file? place) :
    Settings.EnvironmentFiles.seen again.storage (arguments.given? .environmentFile) =
      Settings.EnvironmentFiles.seen workspace.storage (arguments.given? .environmentFile) := by
  cases given : arguments.given? .environmentFile with
  | none => exact Settings.EnvironmentFiles.search_again (unsearched given)
  | some path =>
      cases path with
      | nil => exact absurd given (given?_ne_nil arguments .environmentFile)
      | cons c rest =>
          exact Settings.Sighting.ofReading_again grows
            (unwritten _ (mem_inputs_of_environmentFile given)) (separate.environment _ given)

/-- The announcement of a run changes nothing that is seen of its environment file. -/
theorem Separate.announced {workspace again : Workspace} {script : List Download.Attempt}
    (separate : Separate workspace prepared arguments)
    (stands : again.logging.Stands again.storage)
    (within : again.logging.places ⊆ logPlaces workspace prepared)
    (grows : Grows workspace.storage again.storage) :
    Settings.EnvironmentFiles.seen (announced arguments (Job.start again script)).storage
        (arguments.given? .environmentFile) =
      Settings.EnvironmentFiles.seen again.storage (arguments.given? .environmentFile) := by
  refine seen_announced stands (fun path given logged => ?_)
    fun unnamed place searched logged => (separate.searched unnamed place searched).1 (within logged)
  have placed : (Job.start again script).storage.placeOf path =
      workspace.storage.placeOf path := grows.placeOf path
  rw [placed] at logged
  exact (separate.inputs path (mem_inputs_of_environmentFile given)).1 (within logged)

end Obtaining

section Loading

variable [Limits]

/-- A catalogue that has been loaded is loaded again if its file still reads the same. -/
theorem loadCatalogue_again {options : List (Catalogue.Entry CodePoint)}
    {asked : Option (Option Text)}
    (loading : loadCatalogue first asked = (loaded, .ok options))
    (reading : ∀ path, asked = some (some path) →
      second.storage.readDocument path = first.storage.readDocument path) :
    (loadCatalogue second asked).2 = .ok options := by
  have same : (loadCatalogue second asked).2 = (loadCatalogue first asked).2 := by
    cases asked with
    | none => rfl
    | some path =>
        cases path with
        | none => rfl
        | some path =>
            dsimp only [loadCatalogue, readCatalogue]
            rw [reading path rfl]
            split <;> rfl
  rw [same, loading]

/-- A catalogue that has been loaded from a file could be read as a document. -/
theorem read_of_loadCatalogue {options : List (Catalogue.Entry CodePoint)} {path : Text}
    (loading : loadCatalogue job (some (some path)) = (loaded, .ok options)) :
    ∃ document, job.storage.readDocument path = .ok document := by
  cases found : job.storage.readDocument path with
  | ok document => exact ⟨document, rfl⟩
  | error fault =>
      dsimp only [loadCatalogue, readCatalogue] at loading
      rw [found] at loading
      cases loading

/-- Logging that has been set up is set up again, for the same log file, in files that have only
grown, and these do not change. -/
theorem setUpLogging_again {obtained again : Job}
    (settingUp : setUpLogging arguments settings obtained = (prepared, none))
    (logFolder : ∀ path, (arguments.given? .logFile).or settings.logFile = some path →
      Storage.Path.name (Storage.Path.folder path) = ['.'] →
        prepared.storage.Shows (Storage.Path.folder path) .folder)
    (grows : Grows prepared.storage again.storage) :
    ∃ logging, setUpLogging arguments settings again = ({ again with logging }, none) ∧
      logging.places = prepared.logging.places ∧ logging.Stands again.storage := by
  obtain ⟨-, stands, -, -⟩ := setUpLogging_ok settingUp
  obtain ⟨storage, made, configured, rfl⟩ := setUpLogging_eq_none_iff.mp settingUp
  obtain ⟨logging, configuredAgain, file⟩ :=
    Logging.Setup.configure_again configured logFolder grows again.logging
  have places : logging.places = made.places := by
    rw [Logging.Setup.places, Logging.Setup.places, file]
  refine ⟨logging, setUpLogging_eq_none_iff.mpr ⟨_, _, configuredAgain, rfl⟩, places,
    fun place logged => ?_⟩
  rw [places] at logged
  exact Storage.isSome_file?_iff.mpr
    (grows.kinds place .file (Storage.isSome_file?_iff.mp (stands place logged)))

end Loading

section Preparing

variable [Limits] [Settings.EnvironmentFiles]

/-- Preparing a run loses nothing. -/
theorem prepare_grows (stands : job.logging.Stands job.storage)
    (preparing : prepare arguments job = (prepared, none)) :
    Grows job.storage prepared.storage := by
  obtain ⟨obtained, settings, obtaining, settingUp⟩ := prepare_eq_none_iff.mp preparing
  have grows := (obtainSettings_alike arguments stands).1.grows
  rw [obtaining] at grows
  obtain ⟨storage, logging, configured, rfl⟩ := setUpLogging_eq_none_iff.mp settingUp
  exact grows.trans (Logging.Setup.configure_grows configured)

/-- What has been prepared is prepared again, and no file changes but by reports. -/
theorem prepare_again {workspace again : Workspace} {script : List Download.Attempt}
    (stands : workspace.logging.Stands workspace.storage)
    (preparing : prepare arguments (Job.start workspace script) = (prepared, none))
    (separate : Separate workspace prepared arguments)
    (kept : ∃ number, prepared.settings.kept = some ⟨number, settings⟩)
    (standsAgain : again.logging.Stands again.storage)
    (within : again.logging.places ⊆ logPlaces workspace prepared)
    (environment : again.settings.environment = workspace.settings.environment)
    (keptAgain : again.settings.kept = workspace.settings.kept ∨
      ∃ number, again.settings.kept = some ⟨number, settings⟩)
    (grows : Grows prepared.storage again.storage)
    (unwritten : ∀ path ∈ arguments.inputs,
      again.storage.file? (workspace.storage.placeOf path) =
        workspace.storage.file? (workspace.storage.placeOf path))
    (unsearched : arguments.given? .environmentFile = none →
      ∀ place ∈ Settings.EnvironmentFiles.searched,
        again.storage.file? place = workspace.storage.file? place) :
    ∃ preparedAgain, prepare arguments (Job.start again script) = (preparedAgain, none) ∧
      Ready settings (logPlaces workspace prepared) preparedAgain ∧
      Alike (logPlaces workspace prepared) again.storage preparedAgain.storage ∧
      preparedAgain.script = script := by
  have standsFirst : (Job.start workspace script).logging.Stands
      (Job.start workspace script).storage := stands
  have standsSecond : (Job.start again script).logging.Stands
      (Job.start again script).storage := standsAgain
  have growing := (prepare_grows standsFirst preparing).trans grows
  obtain ⟨obtained, known, obtaining, settingUp⟩ := prepare_eq_none_iff.mp preparing
  obtain ⟨-, -, sameSettings, -⟩ := setUpLogging_ok settingUp
  obtain ⟨number, keptPrepared⟩ := kept
  obtain rfl : known = settings := by
    obtain ⟨other, keptKnown⟩ := (obtainSettings_ok obtaining).1
    rw [sameSettings, keptKnown] at keptPrepared
    cases keptPrepared
    rfl
  have seen : Settings.EnvironmentFiles.seen (announced arguments (Job.start again script)).storage
        (arguments.given? .environmentFile) =
      Settings.EnvironmentFiles.seen (announced arguments (Job.start workspace script)).storage
        (arguments.given? .environmentFile) := by
    rw [separate.announced standsAgain within growing,
      separate.announced stands (List.subset_append_left _ _) (.refl _),
      seen_again separate growing unwritten unsearched]
  have obtainedAgain : (obtainSettings arguments (Job.start again script)).2 = .ok known :=
    obtainSettings_again (congrArg Prod.snd obtaining) environment keptAgain seen
  obtain ⟨alike, -⟩ := obtainSettings_alike arguments standsSecond
  cases obtainingAgain : obtainSettings arguments (Job.start again script) with
  | mk obtainedJob result =>
      rw [obtainingAgain] at obtainedAgain alike
      dsimp only at obtainedAgain
      subst obtainedAgain
      obtain ⟨keptThen, unasked⟩ := obtainSettings_ok obtainingAgain
      have logFolder (path : Text)
          (given : (arguments.given? .logFile).or known.logFile = some path) :=
        separate.logFolder path (by rwa [logFile?, keptPrepared])
      obtain ⟨logging, settingUpAgain, places, standsThen⟩ :=
        setUpLogging_again settingUp logFolder (grows.trans alike.grows)
      refine ⟨{ obtainedJob with logging },
        prepare_eq_none_iff.mpr ⟨obtainedJob, known, obtainingAgain, settingUpAgain⟩,
        ⟨keptThen, ?_, standsThen⟩, alike.mono within, unasked⟩
      rw [places]
      exact List.subset_append_right _ _

end Preparing

section Runs

variable [Limits] [Settings.EnvironmentFiles] [Download.Retrying]

/-- Options that are not all of texts are not performed to the end. -/
theorem performLoaded_completed_iff {options : List (Catalogue.Entry CodePoint)}
    {path : Option Text} {steps : List Step} {finished : Job} :
    performLoaded options job path steps = (finished, none) ↔
      ∃ entries, options = entries.map Catalogue.Entry.codes ∧
        performAll entries job steps = (finished, none) := by
  unfold performLoaded
  split
  · next entries texts =>
      have same := Catalogue.ofCodes?_eq_some_iff.mp texts
      refine ⟨fun done => ⟨entries, same, done⟩, ?_⟩
      rintro ⟨others, sameThen, done⟩
      cases texts.symm.trans (Catalogue.ofCodes?_eq_some_iff.mpr sameThen)
      exact done
  · next noTexts =>
      refine iff_of_false (fun done => ?_) ?_
      · have noBytes := Catalogue.utf8OfCodes?_renderConfigFile_eq_none_iff.mpr noTexts
        cases path with
        | none => cases done
        | some path =>
            dsimp only [performUnencodable, Output.located, Output.save] at done
            split at done
            · next storage saving =>
                obtain ⟨-, bytes, -, encoded, -⟩ := Storage.save_eq_ok_iff.mp saving
                cases noBytes.symm.trans encoded
            · cases done
      · rintro ⟨entries, same, -⟩
        cases noTexts.symm.trans (Catalogue.ofCodes?_eq_some_iff.mpr same)

/-- A run is completed when it has been prepared, the catalogue has been loaded with options of
texts and all steps have been performed. -/
theorem runWith_completed_iff {onWindows : Bool} {last : Job} :
    runWith arguments onWindows job = (last, .completed) ↔
      ∃ prepared loaded entries finished, prepare arguments job = (prepared, none) ∧
        loadCatalogue prepared (arguments.value? .catalogue) =
          (loaded, .ok (entries.map Catalogue.Entry.codes)) ∧
        performAll entries loaded arguments.steps = (finished, none) ∧
        last = conclude onWindows finished := by
  unfold runWith generate
  constructor
  · intro done
    split at done
    · cases done
    · next prepared preparing =>
        cases loading : loadCatalogue prepared (arguments.value? .catalogue) with
        | mk loaded result =>
            rw [loading] at done
            cases result with
            | error failure =>
                dsimp only at done
                split at done <;> cases done
            | ok options =>
                dsimp only at done
                split at done
                · next finished performing =>
                    cases done
                    obtain ⟨entries, rfl, all⟩ := performLoaded_completed_iff.mp performing
                    exact ⟨prepared, loaded, entries, finished, preparing, loading, all, rfl⟩
                · split at done <;> cases done
  · rintro ⟨prepared, loaded, entries, finished, preparing, loading, performing, rfl⟩
    rw [preparing]
    dsimp only
    rw [loading]
    dsimp only
    rw [performLoaded_completed_iff.mpr ⟨entries, rfl, performing⟩]

/-- What a run that has been completed has left: its stages are all its steps, and the paths of
their outputs and of what these were made from show files. -/
structure Completed (workspace : Workspace) (arguments : Arguments) (prepared loaded : Job)
    (material : Material) (stages : List Stage) (left : Job) : Prop where
  kept : ∃ number, prepared.settings.kept = some ⟨number, material.settings⟩
  begun : AgreeOutside (logPlaces workspace prepared) workspace.storage prepared.storage
  grows : Grows prepared.storage left.storage
  ready : Ready material.settings (logPlaces workspace prepared) left
  conducted : Conducted material (logPlaces workspace prepared) workspace.storage loaded
    arguments.steps stages none left.storage
  shown : ∀ step ∈ arguments.steps, ∀ path, step.path? = some path ∨ step.input? = some path →
    left.storage.Shows path .file

section Completed

variable {workspace again : Workspace} {script : List Download.Attempt} {onWindows : Bool}
  {entries : List Catalogue.Entry} {finished left : Job} {material : Material}
  {stages : List Stage}

/-- A run of which all steps have been performed has been completed. -/
theorem completed_of_performAll (stands : workspace.logging.Stands workspace.storage)
    (preparing : prepare arguments (Job.start workspace script) = (prepared, none))
    (separate : Separate workspace prepared arguments)
    (loading : loadCatalogue prepared (arguments.value? .catalogue) =
      (loaded, .ok (entries.map Catalogue.Entry.codes)))
    (performing : performAll entries loaded arguments.steps = (finished, none)) :
    ∃ settings stages, Completed workspace arguments prepared loaded ⟨settings, script, entries⟩
      stages (conclude onWindows finished) := by
  obtain ⟨settings, ready, begun, unasked⟩ := prepare_ready stands preparing
  obtain ⟨reported, scriptKept⟩ := loadCatalogue_reported ready (arguments.value? .catalogue)
  rw [loading] at reported scriptKept
  have readyLoaded : Ready (Material.mk settings script entries).settings
      (logPlaces workspace prepared) loaded := reported.ready ready
  have agree := begun.trans (reported.onlyLogs ready).agree
  have apart := separate.outputs.of_current agree.current
  obtain ⟨stages, conducted, readyFinished⟩ := performAll_conducted readyLoaded apart
    (steps_ordered arguments) (fun _ => scriptKept.trans unasked) performing
  obtain ⟨grows, shown⟩ := performAll_shows readyLoaded apart performing
  have concluding := conclude_reported readyFinished onWindows
  refine ⟨settings, stages, ready.kept, begun,
    (reported.alike.grows.trans grows).trans concluding.alike.grows,
    concluding.ready readyFinished, ?_, fun step within path either =>
      (shown step within path either).of_grows concluding.alike.grows⟩
  exact (conducted.behind agree).ahead separate.outputs
    (concluding.onlyLogs readyFinished).agree

namespace Completed

/-- The files that are only read are as they were before the run. -/
theorem unwritten (completed : Completed workspace arguments prepared loaded material stages left)
    (separate : Separate workspace prepared arguments) {path : Text}
    (named : path ∈ arguments.inputs) :
    left.storage.file? (workspace.storage.placeOf path) =
      workspace.storage.file? (workspace.storage.placeOf path) := by
  obtain ⟨noLog, others⟩ := separate.inputs path named
  refine completed.conducted.written.others _ noLog fun stage held => others stage.path ?_
  exact List.mem_filterMap.mpr ⟨stage.step, completed.conducted.mem_steps held,
    path_of_rendering (completed.conducted.rendered stage held)⟩

/-- The files at the places where an environment file is searched for are as they were before the
run, if none is named. -/
theorem unsearched (completed : Completed workspace arguments prepared loaded material stages left)
    (separate : Separate workspace prepared arguments)
    (unnamed : arguments.given? .environmentFile = none) {place : Storage.Place}
    (searched : place ∈ Settings.EnvironmentFiles.searched) :
    left.storage.file? place = workspace.storage.file? place := by
  obtain ⟨noLog, others⟩ := separate.searched unnamed place searched
  refine completed.conducted.written.others place noLog fun stage held => others stage.path ?_
  exact List.mem_filterMap.mpr ⟨stage.step, completed.conducted.mem_steps held,
    path_of_rendering (completed.conducted.rendered stage held)⟩

/-- A run that has been completed is prepared again where it is repeated. -/
theorem prepared_again
    (completed : Completed workspace arguments prepared loaded material stages left)
    (stands : workspace.logging.Stands workspace.storage)
    (preparing : prepare arguments (Job.start workspace material.script) = (prepared, none))
    (separate : Separate workspace prepared arguments) (repeats : Repeats workspace left again) :
    ∃ preparedAgain, prepare arguments (Job.start again material.script) = (preparedAgain, none) ∧
      Ready material.settings (logPlaces workspace prepared) preparedAgain ∧
      Alike (logPlaces workspace prepared) left.storage preparedAgain.storage ∧
      preparedAgain.script = material.script := by
  have standsAtStart : (Job.start workspace material.script).logging.Stands
      (Job.start workspace material.script).storage := stands
  have grows := (prepare_grows standsAtStart preparing).trans completed.grows
  rw [← repeats.storage]
  refine prepare_again stands preparing separate completed.kept ?_ ?_ repeats.environment ?_ ?_
    (fun path named => ?_) fun unnamed place searched => ?_
  · rw [repeats.storage]
    rcases repeats.logging with same | same <;> rw [same]
    · intro place logged
      have isFile := Storage.isSome_file?_iff.mp (stands place logged)
      exact Storage.isSome_file?_iff.mpr (grows.kinds place .file isFile)
    · exact completed.ready.stands
  · rcases repeats.logging with same | same <;> rw [same]
    · exact List.subset_append_left _ _
    · exact completed.ready.within
  · rcases repeats.kept with same | same
    · exact .inl same
    · rw [same]
      exact .inr completed.ready.kept
  · rw [repeats.storage]
    exact completed.grows
  · rw [repeats.storage]
    exact completed.unwritten separate named
  · rw [repeats.storage]
    exact completed.unsearched separate unnamed searched

/-- The catalogue of a run that has been completed is loaded again. -/
theorem loaded_again
    (completed : Completed workspace arguments prepared loaded material stages left)
    (separate : Separate workspace prepared arguments)
    (loading : loadCatalogue prepared (arguments.value? .catalogue) =
      (loaded, .ok (material.entries.map Catalogue.Entry.codes)))
    {preparedAgain : Job}
    (alike : Alike (logPlaces workspace prepared) left.storage preparedAgain.storage) :
    (loadCatalogue preparedAgain (arguments.value? .catalogue)).2 =
      .ok (material.entries.map Catalogue.Entry.codes) := by
  refine loadCatalogue_again loading fun path asked => ?_
  rw [asked] at loading
  obtain ⟨document, reading⟩ := read_of_loadCatalogue loading
  have named : path ∈ arguments.inputs :=
    List.mem_append_left _ (List.mem_append_left _ (by simp [asked]))
  have noLog := (separate.inputs path named).1
  have placed := completed.begun.placeOf path
  have same : preparedAgain.storage.file? (prepared.storage.placeOf path) =
      prepared.storage.file? (prepared.storage.placeOf path) := by
    rw [placed, alike.agree.files _ noLog, completed.unwritten separate named,
      completed.begun.files _ noLog]
  have read := (Storage.shows_of_readDocument reading).read_again
    (completed.grows.trans alike.grows) same
  unfold Storage.readDocument
  rw [read]

/-- The steps of a run that has been completed can be performed again. -/
theorem renewable
    (completed : Completed workspace arguments prepared loaded material stages left)
    (separate : Separate workspace prepared arguments) {loadedAgain : Job}
    (ready : Ready material.settings (logPlaces workspace prepared) loadedAgain)
    (alike : Alike (logPlaces workspace prepared) left.storage loadedAgain.storage)
    (script : loadedAgain.script = material.script) :
    Renewable material (logPlaces workspace prepared) left.storage loadedAgain
      arguments.steps := by
  have detached := separate.detached.of_current completed.conducted.written.current
  refine ⟨ready, fun _ => script, steps_ordered arguments, alike.grows, detached, ?_, ?_⟩
  · exact fun step within path made => alike.agree.files _ (detached.noLog within made)
  · intro step within
    rw [completed.conducted.completed rfl] at within
    obtain ⟨stage, held, rfl⟩ := List.mem_map.mp within
    obtain ⟨content, rendered, -⟩ :=
      completed.conducted.renders_again separate.detached completed.shown held
    have given := path_of_rendering rendered
    exact ⟨stage.path, content, rendered, completed.shown stage.step
      (completed.conducted.mem_steps held) stage.path (.inl given)⟩

/-- A run that has been completed is completed again where it is repeated: its steps do what they
render by the files that it has left. -/
theorem repeated (completed : Completed workspace arguments prepared loaded material stages left)
    (stands : workspace.logging.Stands workspace.storage)
    (preparing : prepare arguments (Job.start workspace material.script) = (prepared, none))
    (separate : Separate workspace prepared arguments)
    (loading : loadCatalogue prepared (arguments.value? .catalogue) =
      (loaded, .ok (material.entries.map Catalogue.Entry.codes)))
    (repeats : Repeats workspace left again) (onWindows : Bool) :
    ∃ stagesAgain last,
      runWith arguments onWindows (Job.start again material.script) = (last, .completed) ∧
        stagesAgain.map Stage.step = arguments.steps ∧
        (∀ stage ∈ stagesAgain,
          stage.step.rendering material left.storage = .ok (stage.path, stage.content)) ∧
        Overwritten (logPlaces workspace prepared) left.storage stagesAgain last.storage := by
  obtain ⟨preparedAgain, preparingAgain, ready, alike, script⟩ :=
    completed.prepared_again stands preparing separate repeats
  have entries := completed.loaded_again separate loading alike
  obtain ⟨reported, scriptKept⟩ := loadCatalogue_reported ready (arguments.value? .catalogue)
  cases loadingAgain : loadCatalogue preparedAgain (arguments.value? .catalogue) with
  | mk loadedAgain result =>
      rw [loadingAgain] at entries reported scriptKept
      dsimp only at entries
      subst entries
      have readyLoaded := reported.ready ready
      have alikeLoaded := alike.trans (reported.alike.mono ready.within)
      have renewable := completed.renewable separate readyLoaded alikeLoaded
        (scriptKept.trans script)
      obtain ⟨stagesAgain, finished, performing, readyFinished, steps, renders, written⟩ :=
        performAll_again renewable
      have concluding := (conclude_reported readyFinished onWindows).onlyLogs readyFinished
      refine ⟨stagesAgain, conclude onWindows finished, runWith_completed_iff.mpr
        ⟨preparedAgain, loadedAgain, _, finished, preparingAgain, loadingAgain, performing, rfl⟩,
        steps, renders, (written.ahead ?_ concluding.agree).behind alikeLoaded.agree⟩
      intro stage held
      have given := path_of_rendering (renders stage held)
      rw [alikeLoaded.agree.placeOf]
      exact renewable.detached.apart.noLogs stage.path
        (List.mem_filterMap.mpr ⟨stage.step, steps ▸ List.mem_map_of_mem held, given⟩)

/-- A file that is no log file is as it was when the run is repeated, unless it is the README and a
text of an option has the marker that ends the table: then it comes out differently. -/
theorem same_iff (completed : Completed workspace arguments prepared loaded material stages left)
    (separate : Separate workspace prepared arguments) {stagesAgain : List Stage} {last : Job}
    (steps : stagesAgain.map Stage.step = arguments.steps)
    (renders : ∀ stage ∈ stagesAgain,
      stage.step.rendering material left.storage = .ok (stage.path, stage.content))
    (written : Overwritten (logPlaces workspace prepared) left.storage stagesAgain last.storage)
    {place : Storage.Place} (noLog : place ∉ logPlaces workspace prepared) :
    last.storage.file? place = left.storage.file? place ↔
      ¬ (arguments.readmePath.map workspace.storage.placeOf = some place ∧
        ∃ entry ∈ material.entries, entry.Marked) := by
  have placed := Storage.placeOf_of_current completed.conducted.written.current
  by_cases overwritten : ∃ stage ∈ stagesAgain, left.storage.placeOf stage.path = place
  · obtain ⟨stage, held, rfl⟩ := overwritten
    have within : stage.step ∈ arguments.steps := steps ▸ List.mem_map_of_mem held
    rw [completed.conducted.completed rfl] at within
    obtain ⟨first, heldFirst, sameStep⟩ := List.mem_map.mp within
    have withinFirst := completed.conducted.mem_steps heldFirst
    obtain ⟨content, rendered, sameContent⟩ :=
      completed.conducted.renders_again separate.detached completed.shown heldFirst
    have given := path_of_rendering rendered
    have rendersThen := renders stage held
    rw [← sameStep, rendered] at rendersThen
    obtain ⟨samePath, rfl⟩ := Prod.mk.inj (Except.ok.inj rendersThen)
    rw [written.outputs stage held, placed, ← samePath,
      completed.conducted.written.outputs first heldFirst, Option.some_inj,
      Text.utf8_inj, sameContent, isTable_iff separate.outputs withinFirst given]
  · have kept := written.others place noLog fun stage held equal =>
      overwritten ⟨stage, held, equal⟩
    refine iff_of_true kept fun ⟨isReadme, _⟩ => overwritten ?_
    obtain ⟨readme, named, samePlace⟩ := Option.map_eq_some_iff.mp isReadme
    have withinTable : Step.table (some readme) ∈ arguments.steps :=
      mem_steps_table_iff.mpr named.symm
    rw [← steps] at withinTable
    obtain ⟨stage, held, table⟩ := List.mem_map.mp withinTable
    have given := path_of_rendering (renders stage held)
    rw [table] at given
    exact ⟨stage, held, by rw [placed, ← samePlace, Option.some.inj given]⟩

end Completed

end Completed

/-- A run with its arguments that returns the status 0 has been completed. -/
theorem completed_of_status {onWindows : Bool}
    (success : (runWith arguments onWindows job).2.status? = some 0) :
    (runWith arguments onWindows job).2 = .completed := by
  unfold runWith at success ⊢
  split at success
  · cases success
  · split at success
    · rfl
    · split at success <;> cases success

/-- What a run does when it is repeated. A README that has been updated can always be updated again,
and comes out as it was exactly if no text of an option has the marker that ends the table. A run
that has returned the status 0 returns it again where it is repeated; and every file but the log
files is then as it was, except that the README is not if a text of an option has that marker. -/
theorem run_repeated (workspace : Workspace)
    (stands : workspace.logging.Stands workspace.storage) (onWindows : Bool)
    (script : List Download.Attempt) (words : List Text) :
    (∀ readme updated entries, Catalogue.updateReadme readme entries = .ok updated →
      ∃ again, Catalogue.updateReadme updated entries = .ok again ∧
        (again = updated ↔ ¬ ∃ entry ∈ entries, entry.Marked)) ∧
    ((run workspace onWindows script words).2.status? = some 0 →
      ∀ again, Repeats workspace (run workspace onWindows script words).1 again →
        (Arguments.ofWords words = .error .help →
          (run again onWindows script words).2.status? = some 0 ∧
            (run again onWindows script words).1.storage = again.storage) ∧
        ∀ arguments prepared, Arguments.ofWords words = .ok arguments →
          prepare arguments (Job.start workspace script) = (prepared, none) →
          Separate workspace prepared arguments →
          (run again onWindows script words).2.status? = some 0 ∧
            ∃ entries : List Catalogue.Entry,
              (loadCatalogue prepared (arguments.value? .catalogue)).2 =
                .ok (entries.map Catalogue.Entry.codes) ∧
              ∀ place, place ∉ logPlaces workspace prepared →
                ((run again onWindows script words).1.storage.file? place =
                    (run workspace onWindows script words).1.storage.file? place ↔
                  ¬ (arguments.readmePath.map workspace.storage.placeOf = some place ∧
                    ∃ entry ∈ entries, entry.Marked))) := by
  refine ⟨fun _ _ _ => Catalogue.updateReadme_again, fun success again repeats =>
    ⟨fun help => ?_, fun arguments prepared read preparing separate => ?_⟩⟩
  · unfold run
    rw [help]
    exact ⟨rfl, rfl⟩
  have running (workspace : Workspace) : run workspace onWindows script words =
      runWith arguments onWindows (Job.start workspace script) := by
    unfold run
    rw [read]
  rw [running] at success repeats ⊢
  rw [running]
  obtain ⟨left, ending⟩ : ∃ left, runWith arguments onWindows (Job.start workspace script) =
      (left, .completed) := ⟨_, Prod.ext rfl (completed_of_status success)⟩
  obtain ⟨known, loaded, entries, finished, preparingKnown, loading, performing, rfl⟩ :=
    runWith_completed_iff.mp ending
  rw [preparing] at preparingKnown
  cases preparingKnown
  rw [ending] at repeats ⊢
  obtain ⟨settings, stages, completed⟩ :=
    completed_of_performAll stands preparing separate loading performing
  obtain ⟨stagesAgain, last, done, steps, renders, written⟩ :=
    completed.repeated stands preparing separate loading repeats onWindows
  rw [done]
  exact ⟨rfl, entries, congrArg Prod.snd loading, fun place noLog =>
    completed.same_iff separate steps renders written noLog⟩

end Runs

/-- A folder with a README in which a table can be put. -/
def readmeWorkspace : Workspace :=
  .ofStorage ((Storage.empty []).put [['r']]
    (.file (Text.utf8 (Catalogue.tableStart ++ Catalogue.tableEnd))))

section Command

attribute [local instance] machine environmentFiles retrying

/-- The workspace in which a run there is repeated as from the start. -/
def readmeWorkspaceAgain : Workspace :=
  { readmeWorkspace with storage := (run readmeWorkspace false [] loggedWords).1.storage }

/-- A run that has put the table of the bundled options in a README is completed again, and leaves
the README as it is. -/
theorem run_repeated_bundled :
    (run readmeWorkspaceAgain false [] loggedWords).2.status? = some 0 ∧
      (run readmeWorkspaceAgain false [] loggedWords).1.storage.file? [['r']] =
        (run readmeWorkspace false [] loggedWords).1.storage.file? [['r']] := by
  have stands : readmeWorkspace.logging.Stands readmeWorkspace.storage :=
    fun place logged => absurd logged List.not_mem_nil
  have success : (run readmeWorkspace false [] loggedWords).2.status? = some 0 := by
    decide +kernel
  have repeats : Repeats readmeWorkspace (run readmeWorkspace false [] loggedWords).1
      readmeWorkspaceAgain := .afresh readmeWorkspace _
  have preparing : prepare loggedArguments (Job.start readmeWorkspace []) =
      ((prepare loggedArguments (Job.start readmeWorkspace [])).1, none) := rfl
  have separate : Separate readmeWorkspace
      (prepare loggedArguments (Job.start readmeWorkspace [])).1 loggedArguments := by
    refine ⟨⟨?_, ?_⟩, ?_, ?_, fun unnamed place searched => absurd searched List.not_mem_nil, ?_⟩
    · show [[['c']], [['s']], [['r']]].Nodup
      decide
    · show ∀ path ∈ [['c'], ['s'], ['r']], readmeWorkspace.storage.placeOf path ∉ [[['l']]]
      decide
    · exact fun path named => absurd named List.not_mem_nil
    · exact fun path given => nomatch given
    · intro path given stays
      cases given
      cases stays
  have unmarked : ¬ ∃ entry ∈ Catalogue.bundled, entry.Marked := by
    have free : ∀ entry ∈ Catalogue.bundled, ∀ text ∈ entry.texts, '<' ∉ text := by
      decide +kernel
    rintro ⟨entry, within, text, held, marked⟩
    exact free entry within text held (marked.subset (by decide))
  obtain ⟨status, entries, loaded, same⟩ :=
    ((run_repeated readmeWorkspace stands false [] loggedWords).2 success readmeWorkspaceAgain
      repeats).2 loggedArguments _ rfl preparing separate
  have bundled : (loadCatalogue (prepare loggedArguments (Job.start readmeWorkspace [])).1
      (loggedArguments.value? .catalogue)).2 =
        .ok (Catalogue.bundled.map Catalogue.Entry.codes) := rfl
  rw [bundled] at loaded
  obtain rfl := Catalogue.map_codes_injective (Except.ok.inj loaded)
  exact ⟨status, (same [['r']] (by decide)).mpr fun both => unmarked both.2⟩

end Command

end EditorData.CommandLine

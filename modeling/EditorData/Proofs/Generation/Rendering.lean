import EditorData.Generation.Step
import EditorData.Proofs.Logging.LogFiles

/-!
# What a step renders

What a step is to write depends on the settings, on what the network will answer, on the options
and on the files that it sees (`Step.rendering`), and neither on what has been reported before nor
on where reports go. A step renders that completely before it writes (`render_renders`), and until
then it does nothing to the files but report (`render_reported`): they are alike, apart from the
content of the log file.
-/

namespace EditorData.Generation

open Storage (AgreeOutside Alike)

/-- The path of the output of a step, if one is given. -/
def Step.path? : Step -> Option Text
  | .configFile path | .schema path | .table path | .editorProperties path => path
  | .versionData _ path _ => path

/-- Whether a step leaves the network alone. -/
def Step.isLocal : Step -> Bool
  | .versionData .. => false
  | _ => true

/-- What an output writes, and where to. -/
def Output.writing (output : Output) : Text × Codes :=
  (output.path, output.content)

/-- A text that is to be written, as it is given to its file. -/
def encoded (writing : Text × Text) : Text × Codes :=
  (writing.1, Text.codes writing.2)

/-- A content with the path it goes to. -/
def located (path : Option Text) (content : Text) : Except Failure (Text × Text) :=
  match path with
  | some path => .ok (path, content)
  | none => .error .missingPath

/-- What outputs are made from, apart from the files that are seen. -/
structure Material where
  settings : Settings
  /-- What the network will answer. -/
  script : List Download.Attempt
  entries : List Catalogue.Entry

section Contents

variable [Limits] [Download.Retrying]

/-- The reference of a version that the network gives. -/
def Material.online (material : Material) (version : Text) : Except Failure Text :=
  match Template.fill material.settings.urlTemplate version with
  | .error fault => .error (.download (.template fault))
  | .ok address =>
      (Download.get material.settings address material.settings.timeout
        material.script).1.mapError .download

/-- The reference of a version: a snapshot that is seen, or else the one online. -/
def Material.reference (material : Material) (seen : Storage) (version : Text) :
    (snapshot : Option Text) -> Except Failure Text
  | none => material.online version
  | some path => (Reference.readSnapshot seen path).mapError .ofDocument

/-- The table of options in the README that is seen. -/
def Material.readme (material : Material) (seen : Storage) (path : Text) :
    Except Failure (Text × Text) :=
  match seen.readDocument path with
  | .error fault => .error (.ofDocument fault)
  | .ok readme =>
      match Catalogue.updateReadme readme material.entries with
      | .error fault => .error (.readme fault)
      | .ok updated => .ok (path, updated)

/-- The data of a version. -/
def Material.versionData (material : Material) (seen : Storage) (version path : Text)
    (snapshot : Option Text) : Except Failure (Text × Text) :=
  match material.reference seen version snapshot with
  | .error failure => .error failure
  | .ok document =>
      match Reference.collect version material.settings.documentationRoot document with
      | .error fault => .error (.reference fault)
      | .ok builtins => .ok (path, ZigSource.renderVersionData builtins version)

/-- What a step is to write by its material and the files that it sees. -/
def Step.rendering (material : Material) (seen : Storage) :
    Step -> Except Failure (Text × Text)
  | .configFile path => located path (Catalogue.renderConfigFile material.entries)
  | .schema path =>
      match Catalogue.renderSchema material.entries with
      | .error fault => .error (.entry fault)
      | .ok content => located path content
  | .table none => .error .missingPath
  | .table (some path) => material.readme seen path
  | .editorProperties path =>
      match Catalogue.renderEditorProperties material.entries with
      | .error fault => .error (.entry fault)
      | .ok content => located path content
  | .versionData _ none _ => .error .missingPath
  | .versionData version (some path) snapshot =>
      material.versionData seen version path snapshot

end Contents

/-- A located content goes to its path. -/
theorem path_of_located {given : Option Text} {content : Text} {writing : Text × Text}
    (done : located given content = .ok writing) : given = some writing.1 := by
  unfold located at done
  split at done
  · cases done
    rfl
  · cases done

/-- What is written goes to the path of the step. -/
theorem path_of_rendering [Limits] [Download.Retrying] {material : Material} {seen : Storage}
    {step : Step} {writing : Text × Text} (rendered : step.rendering material seen = .ok writing) :
    step.path? = some writing.1 := by
  cases step with
  | configFile path => exact path_of_located rendered
  | schema path =>
      simp only [Step.rendering] at rendered
      split at rendered
      · cases rendered
      · exact path_of_located rendered
  | table path =>
      cases path with
      | none => cases rendered
      | some path =>
          simp only [Step.rendering, Material.readme] at rendered
          split at rendered
          · cases rendered
          · split at rendered <;> cases rendered
            rfl
  | editorProperties path =>
      simp only [Step.rendering] at rendered
      split at rendered
      · cases rendered
      · exact path_of_located rendered
  | versionData version path snapshot =>
      cases path with
      | none => cases rendered
      | some path =>
          simp only [Step.rendering, Material.versionData] at rendered
          split at rendered
          · cases rendered
          · split at rendered <;> cases rendered
            rfl

/-- A run whose settings are made, and whose log file is one of some places and stands. -/
structure Ready (settings : Settings) (logs : List Storage.Place) (job : Job) : Prop where
  kept : ∃ number, job.settings.kept = some ⟨number, settings⟩
  within : job.logging.places ⊆ logs
  stands : job.logging.Stands job.storage

/-- A run has gone on to a later state and is still ready, and no other files than log files have
changed. -/
structure OnlyLogs (settings : Settings) (logs : List Storage.Place) (before after : Job) :
    Prop where
  ready : Ready settings logs after
  agree : AgreeOutside logs before.storage after.storage

/-- A run has gone on to a later state with the settings it kept and with the same logging, and its
files are alike apart from the content of the log file. -/
structure Reported (before after : Job) : Prop where
  kept : after.settings.kept = before.settings.kept
  logging : after.logging = before.logging
  alike : Alike before.logging.places before.storage after.storage

variable {settings : Settings} {material : Material} {logs : List Storage.Place}
  {job before middle after : Job}

namespace Reported

/-- Nothing has happened to a run that has not gone on. -/
theorem refl (job : Job) : Reported job job :=
  ⟨rfl, rfl, .refl _ _⟩

/-- A run that has gone on goes on. -/
theorem trans (first : Reported before middle) (second : Reported middle after) :
    Reported before after :=
  ⟨second.kept.trans first.kept, second.logging.trans first.logging,
    first.alike.trans (first.logging ▸ second.alike)⟩

/-- A run that has only reported is still ready. -/
theorem ready (reported : Reported before after) (ready : Ready settings logs before) :
    Ready settings logs after := by
  refine ⟨by rw [reported.kept]; exact ready.kept, by rw [reported.logging]; exact ready.within,
    fun place logged => ?_⟩
  rw [reported.logging] at logged
  rw [Storage.isSome_file?_iff, reported.alike.kinds, ← Storage.isSome_file?_iff]
  exact ready.stands place logged

/-- A run that has only reported has changed no other file than log files. -/
theorem onlyLogs (reported : Reported before after) (ready : Ready settings logs before) :
    OnlyLogs settings logs before after :=
  ⟨reported.ready ready, reported.alike.agree.mono ready.within⟩

end Reported

/-- Reporting is all that happens when a run reports. -/
theorem reportAll_reported (ready : Ready settings logs job) (entries : List Logging.Entry) :
    Reported job (job.reportAll entries) :=
  ⟨rfl, rfl, Logging.Setup.write_alike ready.stands entries⟩

/-- Nothing has happened to a run that has not gone on. -/
theorem Ready.refl (ready : Ready settings logs job) : OnlyLogs settings logs job job :=
  (Reported.refl job).onlyLogs ready

/-- Reporting changes no other file than log files. -/
theorem Ready.reportAll (ready : Ready settings logs job) (entries : List Logging.Entry) :
    OnlyLogs settings logs job (job.reportAll entries) :=
  (reportAll_reported ready entries).onlyLogs ready

/-- An output at a path that may be missing writes its content there. -/
theorem writing_of_located (path : Option Text) (content : Text) (report : Text -> Text) :
    (Output.located path (Text.codes content) report).map Output.writing =
      (located path content).map encoded := by
  cases path <;> rfl

/-- With its settings made, a run finds the root of the online reference in them. -/
theorem documentationRoot_of_ready [Settings.EnvironmentFiles] (ready : Ready settings logs job) :
    documentationRoot job = (job, .ok settings.documentationRoot) := by
  obtain ⟨number, kept⟩ := ready.kept
  unfold documentationRoot Settings.Session.obtain
  simp only [kept]

section Steps

variable [Limits] [Settings.EnvironmentFiles] [Download.Retrying]

/-- With its settings made, a run downloads the reference by these. -/
theorem fetch_of_kept {session : Settings.Session} {number : Nat}
    (kept : session.kept = some ⟨number, material.settings⟩) (storage : Storage)
    (version : Text) :
    (Download.fetch session storage version none none material.script).1 = session ∧
      (Download.fetch session storage version none none material.script).2.1.mapError .download =
        material.online version := by
  have obtained : session.obtain storage none =
      ⟨session, [], [], .ok ⟨number, material.settings⟩⟩ := by
    unfold Settings.Session.obtain
    rw [kept]
  unfold Download.fetch Download.url Material.online
  simp only [obtained]
  cases Template.fill material.settings.urlTemplate version with
  | error fault => exact ⟨rfl, rfl⟩
  | ok address => exact ⟨rfl, rfl⟩

/-- Obtaining the reference, a run does nothing to its files but report. -/
theorem obtainReference_reported (ready : Ready settings logs job) (version : Text)
    (snapshot : Option Text) : Reported job (obtainReference job version snapshot).1 := by
  cases snapshot with
  | some path => exact reportAll_reported ready _
  | none =>
      obtain ⟨number, kept⟩ := ready.kept
      have keptThen : job.settings.kept =
          some ⟨number, (Material.mk settings job.script []).settings⟩ := kept
      obtain ⟨same, -⟩ := fetch_of_kept keptThen job.storage version
      exact ⟨congrArg Settings.Session.kept same, rfl,
        Logging.Setup.write_alike ready.stands _⟩

/-- The reference that is obtained is the one that the files seen and the network provide. -/
theorem obtainReference_renders (ready : Ready material.settings logs job)
    (fresh : job.script = material.script) (version : Text) (snapshot : Option Text) :
    ∃ seen, Alike logs job.storage seen ∧
      (obtainReference job version snapshot).2 = material.reference seen version snapshot := by
  cases snapshot with
  | some path =>
      have announced := reportAll_reported ready [Reference.snapshotReport path]
      exact ⟨_, announced.alike.mono ready.within, rfl⟩
  | none =>
      obtain ⟨number, kept⟩ := ready.kept
      obtain ⟨-, result⟩ := fetch_of_kept kept job.storage version
      rw [← fresh] at result
      exact ⟨job.storage, .refl logs job.storage, result⟩

/-- Rendering the data of a version, a run does nothing to its files but report. -/
theorem renderVersionData_reported (ready : Ready settings logs job) (version path : Text)
    (snapshot : Option Text) : Reported job (renderVersionData job version path snapshot).1 := by
  have obtaining := obtainReference_reported ready version snapshot
  unfold renderVersionData
  cases obtained : obtainReference job version snapshot with
  | mk next result =>
      rw [obtained] at obtaining
      cases result with
      | error failure => exact obtaining
      | ok document =>
          have readyThen := obtaining.ready ready
          simp only [documentationRoot_of_ready readyThen]
          exact obtaining.trans (reportAll_reported readyThen _)

/-- The data of a version are what the files seen and the network provide. -/
theorem renderVersionData_renders (ready : Ready material.settings logs job)
    (fresh : job.script = material.script) (version path : Text) (snapshot : Option Text) :
    ∃ seen, Alike logs job.storage seen ∧
      (renderVersionData job version path snapshot).2.map Output.writing =
        (material.versionData seen version path snapshot).map encoded := by
  have obtaining := obtainReference_reported ready version snapshot
  obtain ⟨seen, alike, found⟩ := obtainReference_renders ready fresh version snapshot
  refine ⟨seen, alike, ?_⟩
  unfold renderVersionData Material.versionData
  rw [← found]
  cases obtained : obtainReference job version snapshot with
  | mk next result =>
      rw [obtained] at obtaining
      cases result with
      | error failure => rfl
      | ok document =>
          simp only [documentationRoot_of_ready (obtaining.ready ready), Reference.collect]
          cases (Reference.extract ⟨version, material.settings.documentationRoot,
              Reference.sectionAnchor⟩ document).finished <;> rfl

/-- Rendering a step, a run does nothing to its files but report. -/
theorem render_reported (ready : Ready settings logs job) (entries : List Catalogue.Entry)
    (step : Step) : Reported job (step.render entries job).1 := by
  cases step with
  | configFile path => exact .refl job
  | schema path => exact .refl job
  | table path => cases path <;> exact .refl job
  | editorProperties path => exact .refl job
  | versionData version path snapshot =>
      cases path with
      | none => exact .refl job
      | some path => exact renderVersionData_reported ready version path snapshot

/-- A step renders what it is to write by the files that it sees. -/
theorem render_renders (ready : Ready material.settings logs job)
    (fresh : job.script = material.script) (step : Step) :
    ∃ seen, Alike logs job.storage seen ∧
      (step.render material.entries job).2.map Output.writing =
        (step.rendering material seen).map encoded := by
  cases step with
  | configFile path => exact ⟨_, .refl logs job.storage, writing_of_located path _ _⟩
  | schema path =>
      refine ⟨_, .refl logs job.storage, ?_⟩
      simp only [Step.render, Step.rendering]
      cases Catalogue.renderSchema material.entries with
      | error fault => rfl
      | ok content => exact writing_of_located path content _
  | table path =>
      cases path with
      | none => exact ⟨_, .refl logs job.storage, rfl⟩
      | some path =>
          refine ⟨_, .refl logs job.storage, ?_⟩
          simp only [Step.render, Step.rendering, renderReadme, Material.readme]
          cases job.storage.readDocument path with
          | error fault => rfl
          | ok readme =>
              simp only
              cases Catalogue.updateReadme readme material.entries <;> rfl
  | editorProperties path =>
      refine ⟨_, .refl logs job.storage, ?_⟩
      simp only [Step.render, Step.rendering]
      cases Catalogue.renderEditorProperties material.entries with
      | error fault => rfl
      | ok content => exact writing_of_located path content _
  | versionData version path snapshot =>
      cases path with
      | none => exact ⟨_, .refl logs job.storage, rfl⟩
      | some path => exact renderVersionData_renders ready fresh version path snapshot

/-- A step that leaves the network alone leaves its answers for later. -/
theorem script_of_isLocal {step : Step} (isLocal : step.isLocal) (entries : List Catalogue.Entry)
    (job : Job) : (step.render entries job).1.script = job.script := by
  cases step with
  | configFile path => rfl
  | schema path => rfl
  | table path => cases path <;> rfl
  | editorProperties path => rfl
  | versionData version path snapshot => cases isLocal

end Steps

end EditorData.Generation

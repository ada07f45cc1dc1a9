import EditorData.Proofs.Settings.Caching
import EditorData.Proofs.Storage.Rereading

/-!
# Settings made again

Sessions with the same environment make the same settings, whatever else they hold and wherever
their environment file is, as long as the same is found of it (`make_again`). What is found at a
path, or by a search, stays as long as nothing is lost and the files at their places stay.
-/

namespace EditorData.Settings

section Files

variable {before after : Storage}

/-- The same is found at a path as long as nothing is lost and its file, or that there is none,
stays. A path that shows no file at first must not go up, or it might come to show one. -/
theorem Sighting.ofReading_again {path : Text} (grows : Storage.Grows before after)
    (same : after.file? (before.placeOf path) = before.file? (before.placeOf path))
    (steady : before.Shows path .file ∨ ['.', '.'] ∉ Storage.Path.names path) :
    ofReading (after.read path) = ofReading (before.read path) := by
  by_cases shown : before.Shows path .file
  · rw [shown.read_again grows same]
  have level := steady.resolve_left shown
  have hidden : ¬ after.Shows path .file := fun shownThen => by
    refine shown (shownThen.of_later level grows.current ?_)
    rw [← Storage.isSome_file?_iff, ← same, ← grows.placeOf, Storage.isSome_file?_iff]
    exact shownThen.kind
  by_cases null : '\x00' ∈ path
  · rw [Storage.read_of_null null, Storage.read_of_null null]
  cases found : before.read path with
  | ok content => exact absurd (Storage.shows_of_read found) shown
  | error fault =>
      cases foundThen : after.read path with
      | ok content => exact absurd (Storage.shows_of_read foundThen) hidden
      | error faultThen =>
          rw [ofReading, ofReading, if_pos (Storage.isOfSystem_of_read null found),
            if_pos (Storage.isOfSystem_of_read null foundThen)]

variable [EnvironmentFiles]

/-- A search finds the first file at the places where it looks. -/
theorem EnvironmentFiles.search_eq (storage : Storage) :
    search storage =
      match (searched.map storage.file?).findSome? id with
      | some bytes => .content bytes
      | none => .nothing := by
  rw [List.findSome?_map]
  rfl

/-- A search finds the same as long as the files at the places where it looks stay. -/
theorem EnvironmentFiles.search_again
    (same : ∀ place ∈ EnvironmentFiles.searched, after.file? place = before.file? place) :
    search after = search before := by
  rw [search_eq, search_eq, List.map_congr_left same]

end Files

namespace Session

variable {first second : Session}

/-- The same settings are made from the same environment. -/
theorem issue_again (same : second.environment = first.environment)
    (log complaints : List Logging.Entry) :
    (second.issue log complaints).result.map Issue.settings =
      (first.issue log complaints).result.map Issue.settings := by
  unfold issue
  rw [same]
  cases ofEnvironment first.environment <;> rfl

variable [EnvironmentFiles] {storage other : Storage} {envFile : Option Text}

/-- An environment file has the same effect in the same environment. -/
theorem loadFile_again (same : second.environment = first.environment)
    (seen : EnvironmentFiles.seen other envFile = EnvironmentFiles.seen storage envFile) :
    (second.loadFile other envFile).1.environment =
        (first.loadFile storage envFile).1.environment ∧
      (second.loadFile other envFile).2 = (first.loadFile storage envFile).2 := by
  unfold loadFile
  rw [same, seen]
  exact ⟨rfl, rfl⟩

/-- The same settings are made in the same environment if the same is found of an environment
file. -/
theorem make_again (same : second.environment = first.environment)
    (seen : EnvironmentFiles.seen other envFile = EnvironmentFiles.seen storage envFile) :
    (second.make other envFile).result.map Issue.settings =
      (first.make storage envFile).result.map Issue.settings := by
  obtain ⟨environment, outcome⟩ := loadFile_again same seen
  unfold make
  generalize second.loadFile other envFile = loadedSecond at environment outcome ⊢
  generalize first.loadFile storage envFile = loadedFirst at environment outcome ⊢
  obtain ⟨sessionSecond, complaints, fault⟩ := loadedSecond
  obtain ⟨sessionFirst, _, _⟩ := loadedFirst
  cases outcome
  cases fault with
  | some fault => rfl
  | none => exact issue_again environment _ complaints

/-- The settings that have been obtained are obtained again in the same environment, whether the
same ones are kept as before or those obtained. -/
theorem obtain_again {settings : Settings}
    (obtained : (first.obtain storage envFile).result.map Issue.settings = .ok settings)
    (same : second.environment = first.environment)
    (kept : second.kept = first.kept ∨ ∃ number, second.kept = some ⟨number, settings⟩)
    (seen : EnvironmentFiles.seen other envFile = EnvironmentFiles.seen storage envFile) :
    (second.obtain other envFile).result.map Issue.settings = .ok settings := by
  rcases kept with sameKept | ⟨number, kept⟩
  · cases held : first.kept with
    | some issue =>
        rw [obtain_of_kept held] at obtained
        rw [obtain_of_kept (sameKept.trans held)]
        exact obtained
    | none =>
        rw [(obtain_of_none held storage envFile).1] at obtained
        rw [(obtain_of_none (sameKept.trans held) other envFile).1, make_again same seen]
        exact obtained
  · rw [obtain_of_kept kept]
    rfl

end Session

end EditorData.Settings

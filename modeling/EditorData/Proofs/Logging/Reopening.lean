import EditorData.Proofs.Logging.LogFiles
import EditorData.Proofs.Storage.Folders

/-!
# Logging set up again

A log file that has been opened is opened again without a change to any file, as long as nothing is
lost and the path of its folder shows that (`openLog_again`). So logging that has been set up
can be set up again, with the same log file (`configure_again`).
-/

namespace EditorData.Logging

open Storage (Grows)

variable {storage opened later : Storage} {path : Text} {place : Storage.Place}

/-- The place of a log file stays as long as the current folder does. -/
theorem logPlace_of_current (current : later.current = storage.current) (path : Text) :
    logPlace later path = logPlace storage path := by
  rw [logPlace, logPlace, current]

/-- Putting a log file in its place loses nothing. -/
theorem grows_of_outcome {made : Storage} (targeted : made.target path = .ok place)
    (outcome : opened = made ∧ (made.node? place).isSome ∨
      made.node? place = none ∧ opened = made.put place (.file [])) :
    Grows made opened := by
  rcases outcome with ⟨rfl, -⟩ | ⟨-, rfl⟩
  · exact .refl _
  · exact Storage.put_file_grows (Storage.target_ok targeted).2 []

/-- Whether a setup can be replaced depends on the level alone. -/
theorem Setup.replace_again {setup made : Setup} {level : Text} {file : Option Storage.Place}
    (done : setup.replace level file = (made, none)) (other : Setup) :
    ∃ again, other.replace level file = (again, none) ∧ again.file = made.file := by
  unfold Setup.replace at done ⊢
  split at done <;> cases done
  exact ⟨_, rfl, rfl⟩

variable [Limits]

/-- Opening a log file loses nothing, and its absolute path leads to its place ever after. -/
theorem openLog_grows (done : openLog storage path = (opened, .ok place)) :
    Grows storage opened ∧ opened.target (absolutePath (logPlace opened path)) = .ok place := by
  obtain ⟨made, parents, -, targeted, outcome⟩ := openLog_ok done
  have making := Storage.makeParents_grows storage Limits.logFolders path
  rw [parents] at making
  have opening := grows_of_outcome targeted outcome
  refine ⟨making.trans opening, ?_⟩
  rw [logPlace_of_current opening.current]
  exact Storage.target_of_grows targeted opening
    (Storage.isSome_file?_iff.mp (openLog_agree done).2)

/-- The folder of a log file that has been opened is shown by its path, unless that ends in a name
that stays in place. -/
theorem openLog_shows (done : openLog storage path = (opened, .ok place))
    (given : Storage.Path.folder path ≠ [])
    (proper : Storage.Path.name (Storage.Path.folder path) ≠ ['.']) :
    opened.Shows (Storage.Path.folder path) .folder := by
  obtain ⟨made, parents, -, targeted, outcome⟩ := openLog_ok done
  unfold Storage.makeParents at parents
  rw [if_neg given] at parents
  exact (Storage.makeFolders_shows parents proper).of_grows (grows_of_outcome targeted outcome)

/-- A log file that has been opened is opened again as it is, if the path of its folder shows
one. -/
theorem openLog_again (done : openLog storage path = (opened, .ok place))
    (shown : Storage.Path.folder path ≠ [] → opened.Shows (Storage.Path.folder path) .folder)
    (grows : Grows opened later) :
    openLog later path = (later, .ok place) := by
  have isFile : later.kind? place = some .file :=
    grows.kinds _ _ (Storage.isSome_file?_iff.mp (openLog_agree done).2)
  have parents : later.makeParents Limits.logFolders path = (later, none) :=
    Storage.makeParents_of_shows Limits.logFolders fun given => (shown given).of_grows grows
  obtain ⟨-, -, noNull, -⟩ := openLog_ok done
  have again : later.target (absolutePath (logPlace later path)) = .ok place := by
    rw [logPlace_of_current grows.current]
    exact Storage.target_of_grows (openLog_grows done).2 grows isFile
  obtain ⟨content, held⟩ := Option.isSome_iff_exists.mp (Storage.isSome_file?_iff.mpr isFile)
  unfold openLog
  rw [parents]
  dsimp only
  rw [noNull, if_neg Bool.false_ne_true, again]
  dsimp only
  rw [Storage.node?_of_file? held]

namespace Setup

/-- Logging that has been set up is set up again with the same log file, and no file changes, as
long as nothing is lost. If the path of the folder of the log file ends in a name that stays in
place, it must show a folder. -/
theorem configure_again {setup made : Setup} {left : Storage} {level : Text}
    {logFile : Option Text} (done : setup.configure storage level logFile = (left, made, none))
    (shown : ∀ path, logFile = some path →
      Storage.Path.name (Storage.Path.folder path) = ['.'] →
        left.Shows (Storage.Path.folder path) .folder)
    (grows : Grows left later) (other : Setup) :
    ∃ again, other.configure later level logFile = (later, again, none) ∧
      again.file = made.file := by
  have console : (storage, setup.replace level none) = (left, made, none) →
      ∃ again, (later, other.replace level none) = (later, again, none) ∧
        again.file = made.file := by
    intro replaced
    obtain ⟨again, same, file⟩ := replace_again (Prod.mk.inj replaced).2 other
    exact ⟨again, by rw [same], file⟩
  unfold configure at done ⊢
  split at done
  · exact console done
  · exact console done
  · next path given =>
      split at done
      · cases done
      · next opened place opening =>
          obtain ⟨rfl, replaced⟩ := Prod.mk.inj done
          obtain ⟨again, same, file⟩ := replace_again replaced other
          refine ⟨again, ?_, file⟩
          have folder (given : Storage.Path.folder path ≠ []) :
              opened.Shows (Storage.Path.folder path) .folder := by
            by_cases proper : Storage.Path.name (Storage.Path.folder path) = ['.']
            · exact shown path rfl proper
            · exact openLog_shows opening given proper
          rw [openLog_again opening folder grows]
          dsimp only
          rw [same]

/-- Setting logging up loses nothing. -/
theorem configure_grows {setup made : Setup} {left : Storage} {level : Text}
    {logFile : Option Text} (done : setup.configure storage level logFile = (left, made, none)) :
    Grows storage left := by
  unfold configure at done
  split at done
  · exact (Prod.mk.inj done).1 ▸ .refl storage
  · exact (Prod.mk.inj done).1 ▸ .refl storage
  · split at done
    · cases done
    · next opened place opening => exact (Prod.mk.inj done).1 ▸ (openLog_grows opening).1

end Setup

end EditorData.Logging

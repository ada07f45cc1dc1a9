import EditorData.Logging.Setup
import EditorData.Proofs.Storage.Likeness

/-!
# Logging changes log files only

A setup stands in a storage when its log file, if it has one, is a file there. Reporting changes no
other file than that one and leaves the setup standing (`write_agree`), and a setup that has been
made stands, whatever was set up before (`configure_agree`).
-/

namespace EditorData.Logging

open Storage (AgreeOutside)

/-- A log file that has been opened is at a place that its absolute path leads to once its folders
have been made, and has been put there if nothing was there. -/
theorem openLog_ok [Limits] {storage opened : Storage} {path : Text} {place : Storage.Place}
    (done : openLog storage path = (opened, .ok place)) :
    ∃ made, storage.makeParents Limits.logFolders path = (made, none) ∧
      path.contains '\x00' = false ∧
      made.target (absolutePath (logPlace made path)) = .ok place ∧
      (opened = made ∧ (made.node? place).isSome ∨
        made.node? place = none ∧ opened = made.put place (.file [])) := by
  unfold openLog at done
  split at done
  · cases done
  next made noFault =>
    split at done
    · cases done
    next noNull =>
      split at done
      · cases done
      next reached targeted =>
        refine ⟨made, noFault, by simpa using noNull, ?_⟩
        split at done
        · next node shown =>
            cases done
            exact ⟨targeted, .inl ⟨rfl, by rw [shown]; rfl⟩⟩
        · next missing =>
            cases done
            exact ⟨targeted, .inr ⟨missing, rfl⟩⟩

/-- Opening a log file makes it a file and changes no other one. -/
theorem openLog_agree [Limits] {storage opened : Storage} {path : Text} {place : Storage.Place}
    (done : openLog storage path = (opened, .ok place)) :
    AgreeOutside [place] storage opened ∧ (opened.file? place).isSome := by
  obtain ⟨made, noFault, -, targeted, outcome⟩ := openLog_ok done
  have parents :=
    (Storage.makeParents_agree storage Limits.logFolders path).mono (List.nil_subset [place])
  rw [noFault] at parents
  have free := (Storage.target_ok targeted).2
  rcases outcome with ⟨rfl, held⟩ | ⟨-, rfl⟩
  · obtain ⟨node, shown⟩ := Option.isSome_iff_exists.mp held
    -- What is at a free place is no folder.
    cases node with
    | folder => exact absurd shown free.noFolder
    | file content => exact ⟨parents, by simp [Storage.file?, shown]⟩
  · obtain ⟨empty, others⟩ := Storage.put_file free []
    exact ⟨parents.trans others, by simp [empty]⟩

namespace Setup

/-- The places that a setup writes to. -/
def places (setup : Setup) : List Storage.Place :=
  setup.file.toList

/-- The log file of a setup is a file. -/
def Stands (setup : Setup) (storage : Storage) : Prop :=
  ∀ place ∈ setup.places, (storage.file? place).isSome

/-- A setup stands on where its log file is not changed. -/
theorem Stands.of_agree {setup : Setup} {before after : Storage} {places : List Storage.Place}
    (stands : setup.Stands before) (agree : AgreeOutside places before after)
    (apart : ∀ place ∈ setup.places, place ∉ places) : setup.Stands after :=
  fun place logged => by
    rw [agree.files place (apart place logged)]
    exact stands place logged

/-- Reporting changes no other file than the log file, which stays one. -/
theorem write_agree {setup : Setup} {storage : Storage} (stands : setup.Stands storage)
    (entries : List Entry) :
    AgreeOutside setup.places storage (setup.write storage entries).1 ∧
      setup.Stands (setup.write storage entries).1 := by
  unfold write
  split
  · exact ⟨.refl _ _, stands⟩
  · cases file : setup.file with
    | none => exact ⟨.refl _ _, stands⟩
    | some place =>
        have only : setup.places = [place] := by simp [places, file]
        obtain ⟨old, isFile⟩ := Option.isSome_iff_exists.mp (stands place (by simp [only]))
        obtain ⟨held, others⟩ := Storage.append_file isFile _
        refine ⟨by rw [only]; exact others, fun other logged => ?_⟩
        rw [only, List.mem_singleton] at logged
        rw [logged, held]
        rfl

/-- Reporting leaves the storage like it was, apart from the content of the log file. -/
theorem write_alike {setup : Setup} {storage : Storage} (stands : setup.Stands storage)
    (entries : List Entry) :
    Storage.Alike setup.places storage (setup.write storage entries).1 := by
  unfold write
  split
  · exact .refl _ _
  · cases file : setup.file with
    | none => exact .refl _ _
    | some place =>
        have only : setup.places = [place] := by simp [places, file]
        obtain ⟨old, isFile⟩ := Option.isSome_iff_exists.mp (stands place (by simp [only]))
        rw [only]
        exact Storage.append_alike isFile _

/-- A setup that replaces another one has the log file it is given. -/
theorem file_of_replace {setup made : Setup} {level : Text} {file : Option Storage.Place}
    {fault : Option Fault} (replaced : setup.replace level file = (made, fault)) :
    made.file = file := by
  unfold replace at replaced
  split at replaced <;> cases replaced <;> rfl

/-- A new setup stands, and making it changes no other file than its log file. -/
theorem configure_agree [Limits] {setup made : Setup} {storage left : Storage} {level : Text}
    {logFile : Option Text}
    (done : setup.configure storage level logFile = (left, made, none)) :
    AgreeOutside made.places storage left ∧ made.Stands left := by
  -- The console alone leaves all files as they are.
  have console : (storage, setup.replace level none) = (left, made, none) ->
      AgreeOutside made.places storage left ∧ made.Stands left := by
    intro replaced
    obtain ⟨same, replaced⟩ := Prod.mk.inj replaced
    have only : made.places = [] := by simp [places, file_of_replace replaced]
    rw [← same]
    exact ⟨.refl _ _, fun place logged => by simp [only] at logged⟩
  unfold configure at done
  split at done
  · exact console done
  · exact console done
  · split at done
    · cases done
    · next opened place opening =>
        obtain ⟨same, replaced⟩ := Prod.mk.inj done
        have only : made.places = [place] := by simp [places, file_of_replace replaced]
        obtain ⟨others, isFile⟩ := openLog_agree opening
        rw [← same, only]
        exact ⟨others, fun other logged => by
          rw [only, List.mem_singleton] at logged
          rwa [logged]⟩

end Setup

end EditorData.Logging

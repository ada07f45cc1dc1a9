import EditorData.Proofs.Storage.Reaching

/-!
# Storages that differ in the content of some files

Two storages are alike when the same kinds of things are at the same places, and the files have the
same content apart from some places (`Alike`). Every path leads to the same place in both, so what
is done to both keeps them alike and fails in the same way (`save_alike`).
-/

namespace EditorData.Storage

/-- A folder is what has its kind. -/
theorem node?_eq_folder_iff {storage : Storage} {place : Place} :
    storage.node? place = some .folder ↔ storage.kind? place = some .folder := by
  unfold kind?
  cases storage.node? place with
  | none => simp
  | some node => cases node <;> simp [Node.kind]

/-- Nothing is what has no kind. -/
theorem node?_eq_none_iff {storage : Storage} {place : Place} :
    storage.node? place = none ↔ storage.kind? place = none := by
  unfold kind?
  cases storage.node? place <;> simp

/-- A file is what has its kind. -/
theorem isSome_file?_iff {storage : Storage} {place : Place} :
    (storage.file? place).isSome ↔ storage.kind? place = some .file := by
  unfold file? kind?
  cases storage.node? place with
  | none => simp
  | some node => cases node <;> simp [Node.kind]

/-- Two storages have the same current folder, the same kinds of things at all places and, apart
from some places, the same files. -/
structure Alike (places : List Place) (first second : Storage) : Prop where
  current : second.current = first.current
  kinds : ∀ place, second.kind? place = first.kind? place
  nodes : ∀ place, place ∉ places → second.node? place = first.node? place

namespace Alike

variable {places more : List Place} {first second third : Storage}

/-- A storage is like itself. -/
theorem refl (places : List Place) (storage : Storage) : Alike places storage storage :=
  ⟨rfl, fun _ => rfl, fun _ _ => rfl⟩

/-- Likeness goes both ways. -/
theorem symm (alike : Alike places first second) : Alike places second first :=
  ⟨alike.current.symm, fun place => (alike.kinds place).symm, fun place outside =>
    (alike.nodes place outside).symm⟩

/-- Storages that are like the same one are alike. -/
theorem trans (alike : Alike places first second) (next : Alike places second third) :
    Alike places first third :=
  ⟨next.current.trans alike.current, fun place => (next.kinds place).trans (alike.kinds place),
    fun place outside => (next.nodes place outside).trans (alike.nodes place outside)⟩

/-- Storages that differ at some places at most are alike with regard to more of them. -/
theorem mono (alike : Alike places first second) (within : places ⊆ more) :
    Alike more first second :=
  ⟨alike.current, alike.kinds, fun place outside =>
    alike.nodes place fun held => outside (within held)⟩

/-- Storages that are alike have the same files. -/
theorem agree (alike : Alike places first second) : AgreeOutside places first second :=
  ⟨alike.current, fun place outside => by rw [file?, file?, alike.nodes place outside]⟩

/-- A path leads to the same place in both. -/
theorem reach (alike : Alike places first second) (path : Text) :
    second.reach path = first.reach path := by
  unfold Storage.reach
  rw [show second.kind? = first.kind? from funext alike.kinds, alike.current]

/-- A path shows a folder in both or in neither. -/
theorem lookup?_folder (alike : Alike places first second) (path : Text) :
    second.lookup? path = some .folder ↔ first.lookup? path = some .folder := by
  rw [lookup?_eq, lookup?_eq, alike.reach]
  cases first.reach path with
  | error cause => exact Iff.rfl
  | ok place => exact node?_eq_folder_iff.trans (alike.kinds place ▸ node?_eq_folder_iff.symm)

/-- A path shows nothing in both or in neither. -/
theorem lookup?_isNone (alike : Alike places first second) (path : Text) :
    (second.lookup? path).isNone = (first.lookup? path).isNone := by
  rw [Bool.eq_iff_iff, Option.isNone_iff_eq_none, Option.isNone_iff_eq_none, lookup?_eq,
    lookup?_eq, alike.reach]
  cases first.reach path with
  | error cause => exact Iff.rfl
  | ok place => exact node?_eq_none_iff.trans (alike.kinds place ▸ node?_eq_none_iff.symm)

/-- What is put at a free place of both leaves them alike. -/
theorem put (alike : Alike places first second) {place : Place} (free : first.Free place)
    (node : Node) : Alike places (first.put place node) (second.put place node) := by
  have freeThen : second.Free place := by
    refine ⟨?_, fun isFolder => free.noFolder ?_⟩
    · rw [node?_eq_folder_iff, alike.kinds, ← node?_eq_folder_iff]
      exact free.held
    · rw [node?_eq_folder_iff, ← alike.kinds, ← node?_eq_folder_iff]
      exact isFolder
  have shown (other : Place) (kind : second.kind? other = first.kind? other) :
      (second.put place node).kind? other = (first.put place node).kind? other := by
    by_cases same : other = place
    · subst same
      rw [kind?, kind?, node?_put_self _ freeThen.below, node?_put_self _ free.below]
    · rw [kind?, kind?, node?_put_of_ne _ same freeThen.held freeThen.noFolder,
        node?_put_of_ne _ same free.held free.noFolder]
      exact kind
  refine ⟨alike.current, fun other => shown other (alike.kinds other), fun other outside => ?_⟩
  by_cases same : other = place
  · subst same
    rw [node?_put_self _ freeThen.below, node?_put_self _ free.below]
  · rw [node?_put_of_ne _ same freeThen.held freeThen.noFolder,
      node?_put_of_ne _ same free.held free.noFolder, alike.nodes other outside]

end Alike

variable {places : List Place} {first second : Storage}

/-- What is read through a path is the same in both, apart from the places where they differ. -/
theorem Alike.read (alike : Alike places first second) {path : Text}
    (outside : first.placeOf path ∉ places) : second.read path = first.read path := by
  rw [read_eq, read_eq, alike.reach]
  cases reached : first.reach path with
  | error cause => rfl
  | ok place =>
      dsimp only
      rw [alike.nodes place (reach_ok reached ▸ outside)]

/-- A file that is added to leaves the storage like it was. -/
theorem append_alike {storage : Storage} {place : Place} {old : List UInt8}
    (isFile : storage.file? place = some old) (content : List UInt8) :
    Alike [place] storage (storage.append place content) := by
  have shown := node?_of_file? isFile
  have free := free_of_file shown
  have other {elsewhere : Place} (different : elsewhere ≠ place) :
      (storage.append place content).node? elsewhere = storage.node? elsewhere := by
    simp only [append, shown]
    exact node?_put_of_ne _ different free.held free.noFolder _
  refine ⟨by simp only [append, shown]; rfl, fun elsewhere => ?_, fun elsewhere outside => ?_⟩
  · by_cases same : elsewhere = place
    · subst same
      simp only [append, shown, kind?]
      rw [node?_put_self _ free.below]
      rfl
    · rw [kind?, kind?, other same]
  · exact other fun same => outside (List.mem_singleton.mpr same)

/-- Two storages have gone on to others that are alike, or both have failed to, for the same
reason. -/
inductive SameResult (places : List Place) : (first second : Except Fault Storage) -> Prop where
  | failed (fault : Fault) : SameResult places (.error fault) (.error fault)
  | done {first second : Storage} (alike : Alike places first second) :
      SameResult places (.ok first) (.ok second)

/-- A folder is made in both or in neither. -/
theorem makeFolder_alike (alike : Alike places first second) (path : Text) :
    SameResult places (first.makeFolder path) (second.makeFolder path) := by
  rw [makeFolder_eq, makeFolder_eq, alike.reach]
  cases reached : first.reach path with
  | error cause => exact .failed _
  | ok place =>
      have both : second.node? place = none ↔ first.node? place = none :=
        node?_eq_none_iff.trans (alike.kinds place ▸ node?_eq_none_iff.symm)
      dsimp only
      cases held : first.node? place with
      | none =>
          rw [both.mpr held]
          exact .done (alike.put (free_of_reach reached (by simp [held])) .folder)
      | some node =>
          have occupied : (second.node? place).isSome := by
            rw [Option.isSome_iff_ne_none, Ne, both, held]
            simp
          rw [if_pos occupied]
          exact .failed _

/-- Making folders in both leaves them alike, and fails in both or in neither. -/
theorem makeFolders_alike (alike : Alike places first second) (depth : Nat) (path : Text) :
    (second.makeFolders depth path).2 = (first.makeFolders depth path).2 ∧
      Alike places (first.makeFolders depth path).1 (second.makeFolders depth path).1 := by
  induction depth generalizing path with
  | zero => exact ⟨rfl, alike⟩
  | succ depth inductionHypothesis =>
      unfold makeFolders
      dsimp only
      rw [alike.lookup?_isNone]
      generalize foundSecond : (if Path.folder path ≠ [] ∧ Path.folder path ≠ path ∧
          (first.lookup? (Path.folder path)).isNone then
          second.makeFolders depth (Path.folder path)
        else (second, none)) = outerSecond
      generalize foundFirst : (if Path.folder path ≠ [] ∧ Path.folder path ≠ path ∧
          (first.lookup? (Path.folder path)).isNone then
          first.makeFolders depth (Path.folder path)
        else (first, none)) = outerFirst
      have outer : outerSecond.2 = outerFirst.2 ∧ Alike places outerFirst.1 outerSecond.1 := by
        rw [← foundFirst, ← foundSecond]
        split
        · exact inductionHypothesis (Path.folder path)
        · exact ⟨rfl, alike⟩
      obtain ⟨sameFault, outerAlike⟩ := outer
      rw [sameFault]
      split
      · exact ⟨rfl, outerAlike⟩
      · split
        · exact ⟨rfl, outerAlike⟩
        · have shown := outerAlike.lookup?_folder path
          have making := makeFolder_alike outerAlike path
          generalize outerFirst.1.makeFolder path = madeFirst at making ⊢
          generalize outerSecond.1.makeFolder path = madeSecond at making ⊢
          cases making with
          | failed fault => exact ⟨by simp only [shown], outerAlike⟩
          | done made => exact ⟨rfl, made⟩

/-- Making the folders of a path in both leaves them alike, and fails in both or in neither. -/
theorem makeParents_alike (alike : Alike places first second) (above : Nat) (path : Text) :
    (second.makeParents above path).2 = (first.makeParents above path).2 ∧
      Alike places (first.makeParents above path).1 (second.makeParents above path).1 := by
  unfold makeParents
  split
  · exact ⟨rfl, alike⟩
  · exact makeFolders_alike alike (above + 1) (Path.folder path)

/-- A file is written in both or in neither. -/
theorem write_alike (alike : Alike places first second) (path : Text) (content : List UInt8) :
    SameResult places (first.write path content) (second.write path content) := by
  unfold write
  rw [target_eq, target_eq, alike.reach]
  cases reached : first.reach path with
  | error cause => exact .failed _
  | ok place =>
      have both : second.node? place = some .folder ↔ first.node? place = some .folder :=
        node?_eq_folder_iff.trans (alike.kinds place ▸ node?_eq_folder_iff.symm)
      dsimp only
      by_cases isFolder : first.node? place = some .folder
      · rw [if_pos isFolder, if_pos (both.mpr isFolder)]
        exact .failed _
      · rw [if_neg isFolder, if_neg fun held => isFolder (both.mp held)]
        exact .done (alike.put (free_of_reach reached isFolder) (.file content))

/-- Saving a text in both leaves them alike, and fails in both or in neither. -/
theorem save_alike (alike : Alike places first second) (above : Nat) (path : Text)
    (content : Codes) :
    (second.save above path content).2 = (first.save above path content).2 ∧
      Alike places (first.save above path content).1 (second.save above path content).1 := by
  obtain ⟨sameFault, parents⟩ := makeParents_alike alike above path
  unfold save
  cases foundFirst : first.makeParents above path with
  | mk madeFirst faultFirst =>
  cases foundSecond : second.makeParents above path with
  | mk madeSecond faultSecond =>
      rw [foundFirst, foundSecond] at sameFault parents
      dsimp only at sameFault parents
      subst sameFault
      cases faultSecond with
      | some fault => exact ⟨rfl, parents⟩
      | none =>
          dsimp only
          generalize (Text.utf8OfCodes? content).getD [] = bytes
          have writing := write_alike parents path bytes
          generalize madeFirst.write path bytes = writtenFirst at writing ⊢
          generalize madeSecond.write path bytes = writtenSecond at writing ⊢
          cases writing with
          | failed fault => exact ⟨rfl, parents⟩
          | done written => exact ⟨rfl, written⟩

end EditorData.Storage

import EditorData.Proofs.Storage.Folders

/-!
# Reading again

What can be read through a path can be read through it as long as nothing is lost and the file at
its place stays (`Shows.read_again`). A path that does not go up is no way to a file that was there
before it could be followed: what is above a file are folders (`Shows.of_later`).
-/

namespace EditorData.Storage

variable {storage before after : Storage} {path : Text} {place : Place}

/-- Names lead nowhere for reasons of the system. -/
theorem isOfSystem_of_walk {kind? : Place -> Option Kind} {names : List Text} {cause : Cause}
    (stopped : walk kind? place names = .error cause) (path : Text) :
    (Fault.mk cause path).isOfSystem := by
  induction names generalizing place with
  | nil => cases stopped
  | cons name rest inductionHypothesis =>
      unfold walk at stopped
      split at stopped
      · next known =>
          cases stopped
          unfold stepFrom at known
          split at known
          · cases known
            rfl
          · cases known
            rfl
          · split at known <;> cases known
            rfl
      · exact inductionHypothesis stopped

/-- A path with a null character is not read. -/
theorem read_of_null (null : '\x00' ∈ path) (storage : Storage) :
    storage.read path = .error ⟨.nullCharacter, path⟩ := by
  have contained : path.contains '\x00' := by simpa using null
  rw [read_eq, reach, if_pos contained]

/-- A path without a null character leads nowhere for reasons of the system. -/
theorem isOfSystem_of_reach {cause : Cause} (noNull : '\x00' ∉ path)
    (stopped : storage.reach path = .error cause) : (Fault.mk cause path).isOfSystem := by
  unfold reach at stopped
  rw [if_neg (by simpa using noNull)] at stopped
  split at stopped
  · cases stopped
    rfl
  · split at stopped
    · cases stopped
      rfl
    · exact isOfSystem_of_walk stopped path

/-- A path without a null character is not read for a reason of the system. -/
theorem isOfSystem_of_read {fault : Fault} (noNull : '\x00' ∉ path)
    (failed : storage.read path = .error fault) : fault.isOfSystem := by
  rw [read_eq] at failed
  split at failed
  · next cause stopped =>
      cases failed
      exact isOfSystem_of_reach noNull stopped
  · split at failed <;> cases failed <;> rfl

/-- What can be read through a path is read through it again, if nothing is lost and the file
stays. -/
theorem Shows.read_again (shown : before.Shows path .file) (grows : Grows before after)
    (same : after.file? (before.placeOf path) = before.file? (before.placeOf path)) :
    after.read path = before.read path := by
  obtain ⟨content, held, read⟩ := shown.read
  obtain ⟨contentThen, heldThen, readThen⟩ := (shown.of_grows grows).read
  rw [grows.placeOf, same, held] at heldThen
  cases heldThen
  rw [read, readThen]

/-- What can be read through a path as a document is shown as a file. -/
theorem shows_of_readDocument {document : Text} (done : storage.readDocument path = .ok document) :
    storage.Shows path .file := by
  unfold readDocument at done
  split at done
  · cases done
  · next content reading => exact shows_of_read reading

/-- What is shown as a file is read as a document by its content. -/
theorem Shows.readDocument {bytes : List UInt8} {document : Text}
    (shown : storage.Shows path .file) (held : storage.file? (storage.placeOf path) = some bytes)
    (decoded : documentOfBytes? bytes = some document) :
    storage.readDocument path = .ok document := by
  obtain ⟨content, isFile, read⟩ := shown.read
  rw [held] at isFile
  cases isFile
  unfold Storage.readDocument
  rw [read]
  dsimp only
  rw [decoded]

/-- Above what is there are folders. -/
theorem kind?_of_append {inner : Place} (held : (storage.kind? (place ++ inner)).isSome)
    (deeper : inner ≠ []) : storage.kind? place = some .folder := by
  obtain ⟨name, rest, rfl⟩ := List.exists_cons_of_ne_nil deeper
  unfold kind? node? Tree.node? at held ⊢
  rw [Tree.below?_append] at held
  cases found : (Tree.folder storage.root).below? place with
  | none =>
      rw [found] at held
      cases held
  | some tree =>
      rw [found] at held
      cases tree with
      | file content => cases held
      | folder inside => rfl

/-- A name that does not go up leads to a place at or below. -/
theorem prefix_step {name : Text} (level : name ≠ ['.', '.']) (place : Place) :
    place <+: step place name := by
  unfold step
  split
  · exact List.prefix_refl place
  · exact List.prefix_append place [name]

/-- Names that do not go up lead to a place at or below. -/
theorem prefix_of_walk {kind? : Place -> Option Kind} {names : List Text} {reached : Place}
    (level : ['.', '.'] ∉ names) (led : walk kind? place names = .ok reached) :
    place <+: reached := by
  induction names generalizing place with
  | nil =>
      cases led
      exact List.prefix_refl _
  | cons name rest inductionHypothesis =>
      unfold walk stepFrom at led
      split at led
      · cases led
      · next stepped =>
          split at stepped
          · cases stepped
          · cases stepped
          · split at stepped <;> cases stepped
            exact (prefix_step (List.ne_of_not_mem_cons level).symm place).trans
              (inductionHypothesis (List.not_mem_of_not_mem_cons level) led)

/-- Names that lead to a file without going up lead to it wherever there is something at its
place. -/
theorem walk_of_later {names : List Text} {reached : Place} (level : ['.', '.'] ∉ names)
    (led : walk after.kind? place names = .ok reached)
    (isFile : after.kind? reached = some .file) (held : (before.kind? reached).isSome) :
    walk before.kind? place names = .ok reached := by
  induction names generalizing place with
  | nil => exact led
  | cons name rest inductionHypothesis =>
      have folder := kind?_of_walk_cons led
      obtain ⟨inner, below⟩ := prefix_of_walk level led
      have deeper : inner ≠ [] := by
        rintro rfl
        rw [← below, List.append_nil, folder] at isFile
        cases isFile
      have folderThen : before.kind? place = some .folder :=
        kind?_of_append (below ▸ held) deeper
      unfold walk at led ⊢
      rw [folder] at led
      rw [folderThen]
      split at led
      · cases led
      · exact inductionHypothesis (List.not_mem_of_not_mem_cons level) led

/-- A path that shows a file without going up has shown it as long as there was something at its
place. -/
theorem Shows.of_later (level : ['.', '.'] ∉ Path.names path) (shown : after.Shows path .file)
    (current : after.current = before.current)
    (held : before.kind? (before.placeOf path) = some .file) : before.Shows path .file := by
  have usable := usable_of_reach shown.reached
  have led := shown.reached
  rw [usable.reach, current] at led
  have same : after.placeOf path = before.placeOf path := placeOf_of_current current path
  refine ⟨?_, held⟩
  rw [usable.reach, ← same]
  exact walk_of_later level led shown.kind (by rw [same, held]; rfl)

end EditorData.Storage

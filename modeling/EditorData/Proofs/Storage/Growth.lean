import EditorData.Proofs.Storage.Likeness

/-!
# Storages grow

What is done to a storage leaves every folder a folder and every file a file (`Grows`), so a path
that could be followed before can be followed afterwards, to the same place. A path that has been
saved to shows a file ever after (`save_shows`), and can be saved to again (`save_of_shows`).
-/

namespace EditorData.Storage

/-- Nothing has been lost: the current folder is the same, and whatever was there is still there, a
folder or a file as before. -/
structure Grows (before after : Storage) : Prop where
  current : after.current = before.current
  kinds : ∀ place kind, before.kind? place = some kind → after.kind? place = some kind

namespace Grows

variable {before middle after : Storage}

/-- Nothing is lost where nothing happens. -/
theorem refl (storage : Storage) : Grows storage storage :=
  ⟨rfl, fun _ _ held => held⟩

/-- Nothing is lost in two changes that lose nothing. -/
theorem trans (first : Grows before middle) (second : Grows middle after) : Grows before after :=
  ⟨second.current.trans first.current, fun place kind held =>
    second.kinds place kind (first.kinds place kind held)⟩

/-- A path keeps its place. -/
theorem placeOf (grows : Grows before after) (path : Text) :
    after.placeOf path = before.placeOf path :=
  placeOf_of_current grows.current path

/-- A place that names lead to is led to by them in more surroundings. -/
theorem walk {early late : Place -> Option Kind}
    (kinds : ∀ place kind, early place = some kind → late place = some kind) {names : List Text}
    {place reached : Place} (led : Storage.walk early place names = .ok reached) :
    Storage.walk late place names = .ok reached := by
  induction names generalizing place with
  | nil => exact led
  | cons name rest inductionHypothesis =>
      unfold Storage.walk at led ⊢
      cases kind : early place with
      | none =>
          rw [kind] at led
          cases led
      | some found =>
          rw [kinds place found kind]
          rw [kind] at led
          split at led
          · cases led
          · next next stepped => exact inductionHypothesis led

/-- A path that leads somewhere leads there ever after. -/
theorem reach (grows : Grows before after) {path : Text} {place : Place}
    (led : before.reach path = .ok place) : after.reach path = .ok place := by
  unfold Storage.reach at led ⊢
  split at led
  · cases led
  next noNull =>
    rw [if_neg noNull]
    split at led
    · cases led
    next nonempty =>
      rw [if_neg nonempty]
      split at led
      · cases led
      next short =>
        rw [if_neg short, grows.current]
        exact walk grows.kinds led

end Grows

variable {places : List Place} {storage before after : Storage} {path : Text} {place : Place}
  {kind : Kind}

/-- Storages that are alike have lost nothing. -/
theorem Alike.grows (alike : Alike places before after) : Grows before after :=
  ⟨alike.current, fun place _ held => (alike.kinds place).trans held⟩

/-- A file put at a free place displaces nothing but a file. -/
theorem put_file_grows (free : storage.Free place) (content : List UInt8) :
    Grows storage (storage.put place (.file content)) := by
  refine ⟨rfl, fun other kind held => ?_⟩
  by_cases same : other = place
  · subst same
    rw [kind?, node?_put_self _ free.below]
    cases kind with
    | file => rfl
    | folder => exact absurd (node?_eq_folder_iff.mpr held) free.noFolder
  · rw [kind?, node?_put_of_ne _ same free.held free.noFolder]
    exact held

/-- A folder put where nothing is displaces nothing. -/
theorem put_folder_grows (free : storage.Free place) (nothing : storage.node? place = none) :
    Grows storage (storage.put place .folder) := by
  refine ⟨rfl, fun other kind held => ?_⟩
  by_cases same : other = place
  · subst same
    rw [node?_eq_none_iff.mp nothing] at held
    cases held
  · rw [kind?, node?_put_of_ne _ same free.held free.noFolder]
    exact held

/-- Making a folder loses nothing. -/
theorem makeFolder_grows {made : Storage} (done : storage.makeFolder path = .ok made) :
    Grows storage made := by
  rw [makeFolder_eq] at done
  split at done
  · cases done
  · next place reached =>
      split at done
      · cases done
      · next free =>
          cases done
          have nothing : storage.node? place = none := by simpa using free
          exact put_folder_grows (free_of_reach reached (by simp [nothing])) nothing

/-- Making folders loses nothing, whether all of them can be made or not. -/
theorem makeFolders_grows (storage : Storage) (depth : Nat) (path : Text) :
    Grows storage (storage.makeFolders depth path).1 :=
  @makeFolders_keeps _ (fun _ => True) (fun _ _ _ => trivial)
    (fun _ _ _ _ grows made => grows.trans (makeFolder_grows made)) _ depth _ trivial
    (.refl storage)

/-- Making the folders of a path loses nothing. -/
theorem makeParents_grows (storage : Storage) (above : Nat) (path : Text) :
    Grows storage (storage.makeParents above path).1 := by
  unfold makeParents
  split
  · exact .refl storage
  · exact makeFolders_grows storage (above + 1) (Path.folder path)

/-- A path shows something of a kind: it leads to its place, and that is there. -/
structure Shows (storage : Storage) (path : Text) (kind : Kind) : Prop where
  reached : storage.reach path = .ok (storage.placeOf path)
  kind : storage.kind? (storage.placeOf path) = some kind

/-- What a path shows it shows ever after. -/
theorem Shows.of_grows (shown : before.Shows path kind) (grows : Grows before after) :
    after.Shows path kind := by
  refine ⟨?_, ?_⟩
  · rw [grows.placeOf]
    exact grows.reach shown.reached
  · rw [grows.placeOf]
    exact grows.kinds _ _ shown.kind

/-- A path that leads somewhere shows what is there. -/
theorem shows_of_reach (led : storage.reach path = .ok place)
    (held : storage.kind? place = some kind) : storage.Shows path kind := by
  obtain rfl := reach_ok led
  exact ⟨led, held⟩

/-- What can be read through a path is shown as a file. -/
theorem shows_of_read {content : List UInt8} (done : storage.read path = .ok content) :
    storage.Shows path .file := by
  rw [read_eq] at done
  split at done
  · cases done
  · next place reached =>
      split at done
      · cases done
      · cases done
      · next held shown => exact shows_of_reach reached (by rw [kind?, shown]; rfl)

/-- What is shown as a file can be read: it is the file at the place of the path. -/
theorem Shows.read (shown : storage.Shows path .file) :
    ∃ content, storage.file? (storage.placeOf path) = some content ∧
      storage.read path = .ok content := by
  obtain ⟨content, isFile⟩ := Option.isSome_iff_exists.mp (isSome_file?_iff.mpr shown.kind)
  refine ⟨content, isFile, ?_⟩
  rw [read_eq, shown.reached]
  dsimp only
  rw [node?_of_file? isFile]

/-- What is shown as a folder is found as one. -/
theorem Shows.lookup? (shown : storage.Shows path .folder) :
    storage.lookup? path = some .folder := by
  rw [lookup?_eq, shown.reached]
  exact node?_eq_folder_iff.mpr shown.kind

/-- What is found as a folder is shown as one. -/
theorem shows_of_lookup? (found : storage.lookup? path = some .folder) :
    storage.Shows path .folder := by
  rw [lookup?_eq] at found
  split at found
  · next place reached => exact shows_of_reach reached (node?_eq_folder_iff.mp found)
  · cases found

/-- A folder that has been made is shown. -/
theorem makeFolder_shows {made : Storage} (done : storage.makeFolder path = .ok made) :
    made.Shows path .folder := by
  have grows := makeFolder_grows done
  rw [makeFolder_eq] at done
  split at done
  · cases done
  · next place reached =>
      split at done
      · cases done
      · next free =>
          cases done
          have nothing : storage.node? place = none := by simpa using free
          have below := (free_of_reach reached (by simp [nothing])).below
          refine shows_of_reach (grows.reach reached) ?_
          rw [kind?, node?_put_self _ below]
          rfl

/-- A path for which folders have been made shows a folder, unless its last name stays in place. -/
theorem makeFolders_shows {made : Storage} {depth : Nat}
    (done : storage.makeFolders depth path = (made, none)) (proper : Path.name path ≠ ['.']) :
    made.Shows path .folder := by
  cases depth with
  | zero => cases done
  | succ depth =>
      unfold makeFolders at done
      dsimp only at done
      split at done
      · cases done
      · rw [if_neg fun both => proper both.2] at done
        split at done
        · next complete making =>
            cases done
            exact makeFolder_shows making
        · obtain ⟨same, noFault⟩ := Prod.mk.inj done
          rw [same] at noFault
          by_cases found : made.lookup? path = some .folder
          · exact shows_of_lookup? found
          · rw [if_neg found] at noFault
            cases noFault

/-- A file that has been written is shown, and nothing has been lost. -/
theorem write_shows {written : Storage} {content : List UInt8}
    (done : storage.write path content = .ok written) :
    written.Shows path .file ∧ Grows storage written := by
  obtain ⟨place, found, rfl⟩ := write_eq_ok_iff.mp done
  rw [target_eq] at found
  split at found
  · cases found
  · next reached led =>
      split at found
      · cases found
      · next noFolder =>
          cases found
          have free := free_of_reach led noFolder
          have grows := put_file_grows free content
          refine ⟨shows_of_reach (grows.reach led) ?_, grows⟩
          rw [kind?, node?_put_self _ free.below]
          rfl

/-- Where a file can be written it can be written ever after, if a file is there. -/
theorem target_of_grows (done : before.target path = .ok place) (grows : Grows before after)
    (isFile : after.kind? place = some .file) : after.target path = .ok place := by
  have noFolder : after.node? place ≠ some .folder := by
    rw [Ne, node?_eq_folder_iff, isFile]
    simp
  rw [target_eq] at done ⊢
  split at done
  · cases done
  · next reached led =>
      rw [grows.reach led]
      dsimp only
      split at done <;> cases done
      exact if_neg noFolder

/-- Saving a text loses nothing. -/
theorem save_grows (storage : Storage) (above : Nat) (path : Text) (content : Codes) :
    Grows storage (storage.save above path content).1 := by
  have parents := makeParents_grows storage above path
  unfold save
  split
  · next made fault found =>
      rw [found] at parents
      exact parents
  · next made found =>
      rw [found] at parents
      dsimp only
      split
      · exact parents
      · next written writing => exact parents.trans (write_shows writing).2

/-- A text that has been saved is shown. -/
theorem save_shows {saved : Storage} {above : Nat} {content : Codes}
    (done : storage.save above path content = (saved, none)) : saved.Shows path .file := by
  obtain ⟨made, bytes, -, -, writing⟩ := save_eq_ok_iff.mp done
  exact (write_shows writing).1

end EditorData.Storage

import EditorData.Proofs.Storage.Places
import EditorData.Storage.Document

/-!
# What becomes of files

Every operation on the storage is described by the places at which it may change a file
(`AgreeOutside`). Making folders changes none, and writing through a path changes only the one at
its place. A text that has been saved is there (`save_ok`), and one that cannot be saved leaves all
files alone (`save_fault`), unless the file has been opened and the text has no bytes: then what is
left is what the empty text leaves (`save_unencodable`).
-/

namespace EditorData.Storage

/-- The content of the file at a place, if there is a file. -/
def file? (storage : Storage) (place : Place) : Option (List UInt8) :=
  match storage.node? place with
  | some (.file content) => some content
  | _ => none

/-- A file is what is at its place. -/
theorem node?_of_file? {storage : Storage} {place : Place} {content : List UInt8}
    (isFile : storage.file? place = some content) :
    storage.node? place = some (.file content) := by
  unfold file? at isFile
  split at isFile
  · next held shown =>
      cases isFile
      exact shown
  · cases isFile

/-- Two storages have the same current folder and the same files, apart from some places. -/
structure AgreeOutside (places : List Place) (before after : Storage) : Prop where
  current : after.current = before.current
  files : ∀ place, place ∉ places → after.file? place = before.file? place

namespace AgreeOutside

variable {places more : List Place} {before middle after : Storage}

/-- A storage agrees with itself. -/
theorem refl (places : List Place) (storage : Storage) : AgreeOutside places storage storage :=
  ⟨rfl, fun _ _ => rfl⟩

/-- Two changes one after the other change no other files. -/
theorem trans (first : AgreeOutside places before middle)
    (second : AgreeOutside places middle after) : AgreeOutside places before after :=
  ⟨second.current.trans first.current, fun place outside =>
    (second.files place outside).trans (first.files place outside)⟩

/-- Storages that agree outside some places agree outside more of them. -/
theorem mono (agree : AgreeOutside places before after) (within : places ⊆ more) :
    AgreeOutside more before after :=
  ⟨agree.current, fun place outside => agree.files place fun held => outside (within held)⟩

/-- A path keeps its place. -/
theorem placeOf (agree : AgreeOutside places before after) (path : Text) :
    after.placeOf path = before.placeOf path :=
  placeOf_of_current agree.current path

end AgreeOutside

/-- A file put at a free place is there, and no other file changes. -/
theorem put_file {storage : Storage} {place : Place} (free : storage.Free place)
    (content : List UInt8) :
    (storage.put place (.file content)).file? place = some content ∧
      AgreeOutside [place] storage (storage.put place (.file content)) := by
  refine ⟨by rw [file?, node?_put_self storage free.below], rfl, fun other outside => ?_⟩
  have different : other ≠ place := by simpa using outside
  rw [file?, file?, node?_put_of_ne storage different free.held free.noFolder]

/-- A folder put where nothing is changes no file. -/
theorem put_folder {storage : Storage} {place : Place} (free : storage.Free place)
    (nothing : storage.node? place = none) :
    AgreeOutside [] storage (storage.put place .folder) := by
  refine ⟨rfl, fun other _ => ?_⟩
  by_cases same : other = place
  · subst same
    rw [file?, file?, node?_put_self storage free.below, nothing]
  · rw [file?, file?, node?_put_of_ne storage same free.held free.noFolder]

/-- The place of a file to write is that of its path, and free. -/
theorem target_ok {storage : Storage} {path : Text} {place : Place}
    (reached : storage.target path = .ok place) :
    place = storage.placeOf path ∧ storage.Free place := by
  unfold target at reached
  split at reached
  · cases reached
  · next trail led =>
      split at reached
      · cases reached
      · next noFolder =>
          cases reached
          have place := (isIn_of_trail led).2
          exact ⟨place, by rw [place]; exact free_of_trail led noFolder⟩

/-- What is read through a path is the file at its place. -/
theorem read_ok {storage : Storage} {path : Text} {content : List UInt8}
    (done : storage.read path = .ok content) :
    storage.file? (storage.placeOf path) = some content := by
  unfold read at done
  split at done
  · cases done
  · next trail led =>
      have shown := node?_placeOf led
      split at done
      · cases done
      · cases done
      · next held here =>
          cases done
          rw [file?, shown, here]
          rfl

/-- A document is the text of the file at its place. -/
theorem readDocument_ok {storage : Storage} {path document : Text}
    (done : storage.readDocument path = .ok document) :
    ∃ bytes, storage.file? (storage.placeOf path) = some bytes ∧
      documentOfBytes? bytes = some document := by
  unfold readDocument at done
  split at done
  · cases done
  · next bytes reading =>
      split at done
      · next text decoded =>
          cases done
          exact ⟨bytes, read_ok reading, decoded⟩
      · cases done

/-- A file is written at the place of the path to write. -/
theorem write_eq_ok_iff {storage written : Storage} {path : Text} {content : List UInt8} :
    storage.write path content = .ok written ↔
      ∃ place, storage.target path = .ok place ∧ written = storage.put place (.file content) := by
  unfold write
  cases storage.target path with
  | error fault => exact iff_of_false nofun (by simp)
  | ok place => exact ⟨fun done => ⟨place, rfl, (Except.ok.inj done).symm⟩, by
      rintro ⟨_, ⟨⟩, rfl⟩
      rfl⟩

/-- A file that has been written is there, and no other file has changed. -/
theorem write_ok {storage written : Storage} {path : Text} {content : List UInt8}
    (done : storage.write path content = .ok written) :
    written.file? (storage.placeOf path) = some content ∧
      AgreeOutside [storage.placeOf path] storage written := by
  obtain ⟨place, reached, rfl⟩ := write_eq_ok_iff.mp done
  obtain ⟨rfl, free⟩ := target_ok reached
  exact put_file free content

/-- What is added to a file is at its end, and no other file changes. -/
theorem append_file {storage : Storage} {place : Place} {old : List UInt8}
    (isFile : storage.file? place = some old) (content : List UInt8) :
    (storage.append place content).file? place = some (old ++ content) ∧
      AgreeOutside [place] storage (storage.append place content) := by
  have shown := node?_of_file? isFile
  simp only [append, shown]
  exact put_file (free_of_file shown) (old ++ content)

/-- Making a folder changes no file. -/
theorem makeFolder_ok {storage made : Storage} {path : Text}
    (done : storage.makeFolder path = .ok made) : AgreeOutside [] storage made := by
  unfold makeFolder at done
  split at done
  · cases done
  · next trail led =>
      split at done
      · cases done
      · next nothing =>
          cases done
          have free := free_of_trail led (by simp [nothing])
          have place := (isIn_of_trail led).2
          rw [← place] at free
          exact put_folder free (by rw [place, node?_placeOf led, nothing]; rfl)

/-- What holds at the start and stays when a single folder is made holds when folders have been
made, whether all of them can be made or not. Each of them is given by the path or by a folder part
of one. -/
theorem makeFolders_keeps {holds : Storage -> Prop} {given : Text -> Prop}
    (outward : ∀ path, given path → Path.folder path ≠ [] → given (Path.folder path))
    (keeps : ∀ storage made path, given path → holds storage →
      storage.makeFolder path = .ok made → holds made)
    {storage : Storage} (depth : Nat) {path : Text} (isGiven : given path)
    (initial : holds storage) : holds (storage.makeFolders depth path).1 := by
  induction depth generalizing path with
  | zero => exact initial
  | succ depth inductionHypothesis =>
      unfold makeFolders
      dsimp only
      generalize found : (if Path.folder path ≠ [] ∧ Path.folder path ≠ path ∧
          (storage.lookup? (Path.folder path)).isNone then
          storage.makeFolders depth (Path.folder path)
        else (storage, none)) = outer
      have outerHolds : holds outer.1 := by
        rw [← found]
        split
        · next missing => exact inductionHypothesis (outward path isGiven missing.1)
        · exact initial
      split
      · exact outerHolds
      · split
        · exact outerHolds
        · split
          · next complete making => exact keeps outer.1 complete path isGiven outerHolds making
          · exact outerHolds

/-- Making folders changes no file, whether all of them can be made or not. -/
theorem makeFolders_agree (storage : Storage) (depth : Nat) (path : Text) :
    AgreeOutside [] storage (storage.makeFolders depth path).1 :=
  @makeFolders_keeps _ (fun _ => True) (fun _ _ _ => trivial)
    (fun _ _ _ _ agree made => agree.trans (makeFolder_ok made)) _ depth _ trivial
    (.refl [] storage)

/-- Making the folders of a path changes no file. -/
theorem makeParents_agree (storage : Storage) (above : Nat) (path : Text) :
    AgreeOutside [] storage (storage.makeParents above path).1 := by
  unfold makeParents
  split
  · exact .refl [] storage
  · exact makeFolders_agree storage (above + 1) (Path.folder path)

section Saving

variable {storage saved left : Storage} {above : Nat} {path : Text} {content : Codes}
  {fault : Fault}

/-- A text is saved if it has bytes, the folders can be made, and the bytes can be written then. -/
theorem save_eq_ok_iff :
    storage.save above path content = (saved, none) ↔
      ∃ made bytes, storage.makeParents above path = (made, none) ∧
        Text.utf8OfCodes? content = some bytes ∧ made.write path bytes = .ok saved := by
  unfold save
  cases storage.makeParents above path with
  | mk made outcome =>
      cases outcome with
      | some fault => simp
      | none =>
          cases Text.utf8OfCodes? content with
          | none => cases written : made.write path [] <;> simp [written]
          | some bytes => cases written : made.write path bytes <;> simp [written, eq_comm]

/-- How a text is not saved. A folder cannot be made, or the file cannot be opened then; what has
been made is left. Or the text has no bytes, and what is left is what the empty text leaves. -/
theorem save_fault_cases (failed : storage.save above path content = (left, some fault)) :
    storage.makeParents above path = (left, some fault) ∨
      (storage.makeParents above path = (left, none) ∧
        ∃ bytes, left.write path bytes = .error fault) ∨
      Text.utf8OfCodes? content = none ∧ fault = ⟨.unencodable, path⟩ ∧
        storage.save above path [] = (left, none) := by
  unfold save at failed
  cases making : storage.makeParents above path with
  | mk made outcome =>
      rw [making] at failed
      cases outcome with
      | some known => exact .inl failed
      | none =>
          dsimp only at failed
          split at failed
          · next known refused =>
              cases failed
              exact .inr (.inl ⟨rfl, _, refused⟩)
          · next written writing =>
              cases noBytes : Text.utf8OfCodes? content with
              | some bytes =>
                  rw [noBytes] at failed
                  cases failed
              | none =>
                  rw [noBytes] at failed writing
                  cases failed
                  exact .inr (.inr ⟨rfl, rfl, save_eq_ok_iff.mpr ⟨made, [], making, rfl, writing⟩⟩)

/-- A text without bytes is not saved. Where the empty text is saved, so much is left. -/
theorem save_unencodable (noBytes : Text.utf8OfCodes? content = none)
    (opened : storage.save above path [] = (saved, none)) :
    storage.save above path content = (saved, some ⟨.unencodable, path⟩) := by
  obtain ⟨made, bytes, making, encoded, writing⟩ := save_eq_ok_iff.mp opened
  obtain rfl : [] = bytes := Option.some.inj encoded
  unfold save
  rw [making, noBytes]
  simp only [Option.getD_none, writing]
  rfl

/-- A text that has been saved is there, and no other file has changed. -/
theorem save_ok (done : storage.save above path content = (saved, none)) :
    (∃ bytes, Text.utf8OfCodes? content = some bytes ∧
        saved.file? (storage.placeOf path) = some bytes) ∧
      AgreeOutside [storage.placeOf path] storage saved := by
  have parents := makeParents_agree storage above path
  obtain ⟨made, bytes, making, encoded, writing⟩ := save_eq_ok_iff.mp done
  rw [making] at parents
  obtain ⟨held, others⟩ := write_ok writing
  rw [parents.placeOf] at held others
  exact ⟨⟨bytes, encoded, held⟩, (parents.mono (List.nil_subset _)).trans others⟩

/-- A text that cannot be saved changes no file, unless it has no bytes and the file could be
opened. -/
theorem save_fault (failed : storage.save above path content = (left, some fault)) :
    AgreeOutside [] storage left ∨
      Text.utf8OfCodes? content = none ∧ fault = ⟨.unencodable, path⟩ ∧
        storage.save above path [] = (left, none) := by
  have parents := makeParents_agree storage above path
  rcases save_fault_cases failed with making | ⟨making, -⟩ | opened
  · rw [making] at parents
    exact .inl parents
  · rw [making] at parents
    exact .inl parents
  · exact .inr opened

end Saving

end EditorData.Storage

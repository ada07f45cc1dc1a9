import EditorData.Proofs.Storage.Rereading

/-!
# What saving makes and why it fails

Saving makes no folders but missing ones that lead to the file (`Deepens`), whether the file can be
written then or not. It fails for a reason of the system, unless the path has a null character, too
many of the folders above its own one are missing, or the text has no bytes (`save_fault_cause`).
-/

namespace EditorData.Storage

/-- Nothing has changed but that folders have been made where nothing was, each of which leads to a
place. -/
structure Deepens (target : Place) (before after : Storage) : Prop where
  current : after.current = before.current
  nodes : ∀ place, after.node? place = before.node? place ∨
    place <+: target ∧ before.node? place = none ∧ after.node? place = some .folder

namespace Deepens

variable {target : Place} {before middle after : Storage}

/-- No folder has to be made. -/
theorem refl (target : Place) (storage : Storage) : Deepens target storage storage :=
  ⟨rfl, fun _ => .inl rfl⟩

/-- Folders are made one after the other. -/
theorem trans (first : Deepens target before middle) (second : Deepens target middle after) :
    Deepens target before after := by
  refine ⟨second.current.trans first.current, fun place => ?_⟩
  rcases second.nodes place with same | ⟨leads, nothing, made⟩
  · rw [same]
    exact first.nodes place
  · rcases first.nodes place with same | ⟨-, -, madeBefore⟩
    · exact .inr ⟨leads, same ▸ nothing, made⟩
    · cases nothing.symm.trans madeBefore

end Deepens

variable {storage : Storage} {path : Text} {target : Place} {fault : Fault}

/-- Names that do not go up lead to a place at or below, whatever is there. -/
theorem prefix_foldl_step {names : List Text} (level : ['.', '.'] ∉ names) (place : Place) :
    place <+: names.foldl step place := by
  induction names generalizing place with
  | nil => exact List.prefix_rfl
  | cons name rest inductionHypothesis =>
      exact (prefix_step (List.ne_of_not_mem_cons level).symm place).trans
        (inductionHypothesis (List.not_mem_of_not_mem_cons level) _)

/-- Empty names stay in place. -/
theorem foldl_step_of_empty {names : List Text} (empty : ∀ name ∈ names, name = [])
    (place : Place) : names.foldl step place = place := by
  induction names with
  | nil => rfl
  | cons name rest inductionHypothesis =>
      obtain ⟨first, others⟩ := List.forall_mem_cons.mp empty
      rw [List.foldl_cons, first]
      exact inductionHypothesis others

/-- The folder part of a path that does not go up leads to the place of the path, and does not go up
either. -/
theorem placeOf_folder_leads (storage : Storage) (given : Path.folder path ≠ [])
    (level : ['.', '.'] ∉ Path.names path) :
    storage.placeOf (Path.folder path) <+: storage.placeOf path ∧
      ['.', '.'] ∉ Path.names (Path.folder path) := by
  obtain ⟨rest, whole, ends⟩ := folder_cases path
  obtain ⟨c, others, spelled⟩ := List.exists_cons_of_ne_nil given
  rcases ends with slashes | ⟨more, rfl⟩
  · have absolute : Path.isAbsolute (Path.folder path) := by
      rw [spelled, slashes c (spelled ▸ List.mem_cons_self)]
      rfl
    have empty := parts_of_slashes slashes
    refine ⟨?_, fun climbs => absurd (empty _ climbs) (List.cons_ne_nil _ _)⟩
    rw [placeOf, if_pos absolute, foldl_step_of_empty empty]
    exact List.nil_prefix
  · have absolute : Path.isAbsolute path = Path.isAbsolute (Path.folder path) := by
      conv_lhs => rw [whole, spelled]
      rw [spelled]
      rfl
    have names : Path.names path = Path.names (Path.folder path) ++ Path.names more := by
      conv_lhs => rw [whole]
      exact Path.names_append _ more
    rw [names, List.mem_append, not_or] at level
    refine ⟨?_, level.1⟩
    rw [placeOf, placeOf, absolute, names, List.foldl_append]
    exact prefix_foldl_step level.2 _

/-- A folder that leads to a place is made. -/
theorem makeFolder_deepens {made : Storage} (leads : storage.placeOf path <+: target)
    (done : storage.makeFolder path = .ok made) : Deepens target storage made := by
  rw [makeFolder_eq] at done
  split at done
  · cases done
  · next place reached =>
      split at done
      · cases done
      · next free =>
          cases done
          have nothing : storage.node? place = none := by simpa using free
          have apart := free_of_reach reached (by simp [nothing])
          obtain rfl := reach_ok reached
          refine ⟨rfl, fun other => ?_⟩
          by_cases same : other = storage.placeOf path
          · subst same
            exact .inr ⟨leads, nothing, node?_put_self storage apart.below .folder⟩
          · exact .inl (node?_put_of_ne storage same apart.held apart.noFolder .folder)

/-- The folders of a path that does not go up lead to its place. -/
theorem makeParents_deepens (storage : Storage) (above : Nat)
    (level : ['.', '.'] ∉ Path.names path) :
    Deepens (storage.placeOf path) storage (storage.makeParents above path).1 := by
  unfold makeParents
  split
  · exact .refl _ storage
  · next given =>
      refine @makeFolders_keeps _
        (fun folder => storage.placeOf folder <+: storage.placeOf path ∧
          ['.', '.'] ∉ Path.names folder)
        ?_ ?_ storage (above + 1) _ (placeOf_folder_leads storage given level) (.refl _ storage)
      · rintro folder ⟨leads, level⟩ given
        obtain ⟨outward, levelOutside⟩ := placeOf_folder_leads storage given level
        exact ⟨outward.trans leads, levelOutside⟩
      · rintro middle made folder ⟨leads, -⟩ deepens making
        rw [← placeOf_of_current deepens.current] at leads
        exact deepens.trans (makeFolder_deepens leads making)

/-- Saving a text changes nothing but the file, apart from missing folders that lead to it. -/
theorem save_ok_nodes {saved : Storage} {above : Nat} {content : Codes}
    (level : ['.', '.'] ∉ Path.names path)
    (done : storage.save above path content = (saved, none)) :
    ∀ place, place ≠ storage.placeOf path → saved.node? place = storage.node? place ∨
      place <+: storage.placeOf path ∧ storage.node? place = none ∧
        saved.node? place = some .folder := by
  have parents := makeParents_deepens storage above level
  obtain ⟨made, bytes, making, -, writing⟩ := save_eq_ok_iff.mp done
  rw [making] at parents
  obtain ⟨reached, found, rfl⟩ := write_eq_ok_iff.mp writing
  obtain ⟨rfl, free⟩ := target_ok found
  intro place different
  rw [← placeOf_of_current parents.current] at different
  rw [node?_put_of_ne made different free.held free.noFolder]
  exact parents.nodes place

/-- A text that cannot be saved leaves nothing behind but folders that lead to its place, unless it
has no bytes and the file could be opened. -/
theorem save_fault_deepens {left : Storage} {above : Nat} {content : Codes}
    (level : ['.', '.'] ∉ Path.names path)
    (failed : storage.save above path content = (left, some fault)) :
    Deepens (storage.placeOf path) storage left ∨
      Text.utf8OfCodes? content = none ∧ fault = ⟨.unencodable, path⟩ ∧
        storage.save above path [] = (left, none) := by
  have parents := makeParents_deepens storage above level
  rcases save_fault_cases failed with making | ⟨making, -⟩ | opened
  · rw [making] at parents
    exact .inl parents
  · rw [making] at parents
    exact .inl parents
  · exact .inr opened

/-- The folders above a path that are not found. -/
def missingAbove (storage : Storage) (path : Text) : List Text :=
  (Path.chain path).dropLast.filter fun folder => (storage.lookup? folder).isNone

/-- A path is the last one of those that lead to it. -/
theorem chain_concat (path : Text) : ∃ above, Path.chain path = above ++ [path] := by
  rw [Path.chain]
  split
  · exact ⟨_, rfl⟩
  · exact ⟨[], rfl⟩

/-- A folder part that is not found is one more that is missing. -/
theorem length_missingAbove (given : Path.folder path ≠ []) (other : Path.folder path ≠ path)
    (missing : (storage.lookup? (Path.folder path)).isNone) :
    (storage.missingAbove path).length =
      (storage.missingAbove (Path.folder path)).length + 1 := by
  obtain ⟨rest, whole, -⟩ := folder_cases path
  have shorter : (Path.folder path).length < path.length := by
    have further : rest ≠ [] := by
      rintro rfl
      exact other (whole.trans (List.append_nil _)).symm
    have lengths := congrArg List.length whole
    rw [List.length_append] at lengths
    have positive := List.length_pos_iff.mpr further
    omega
  obtain ⟨above, last⟩ := chain_concat (Path.folder path)
  have chain : Path.chain path = above ++ [Path.folder path] ++ [path] := by
    rw [Path.chain, dif_pos ⟨shorter, given⟩, last]
  rw [missingAbove, missingAbove, chain, last, List.dropLast_concat, List.dropLast_concat,
    List.filter_append, List.filter_singleton, missing, List.length_append]
  rfl

/-- A path leads nowhere for reasons of the system, or since it has a null character. -/
theorem cause_of_reach {cause : Cause} (stopped : storage.reach path = .error cause) :
    (Fault.mk cause path).isOfSystem ∨ cause = .nullCharacter ∧ '\x00' ∈ path := by
  by_cases null : '\x00' ∈ path
  · rw [reach, if_pos (by simpa using null)] at stopped
    exact .inr ⟨(Except.error.inj stopped).symm, null⟩
  · exact .inl (isOfSystem_of_reach null stopped)

/-- A folder cannot be made for such reasons. -/
theorem cause_of_makeFolder (failed : storage.makeFolder path = .error fault) :
    fault.isOfSystem ∨ fault.cause = .nullCharacter ∧ '\x00' ∈ path := by
  rw [makeFolder_eq] at failed
  split at failed
  · next cause stopped =>
      cases failed
      exact cause_of_reach stopped
  · split at failed <;> cases failed
    exact .inl rfl

/-- A file cannot be written for such reasons. -/
theorem cause_of_write {content : List UInt8} (failed : storage.write path content = .error fault) :
    fault.isOfSystem ∨ fault.cause = .nullCharacter ∧ '\x00' ∈ path := by
  have stopped := map_eq_error_iff.mp failed
  rw [target_eq] at stopped
  split at stopped
  · next cause led =>
      cases stopped
      exact cause_of_reach led
  · split at stopped <;> cases stopped
    exact .inl rfl

/-- A null character of the folder part is one of the path. -/
theorem mem_of_mem_folder {c : Char} (held : c ∈ Path.folder path) : c ∈ path := by
  obtain ⟨rest, whole, -⟩ := folder_cases path
  exact whole ▸ List.mem_append_left rest held

/-- Folders cannot be made for such reasons, or since too many are missing. -/
theorem cause_of_makeFolders {depth : Nat}
    (failed : (storage.makeFolders depth path).2 = some fault) :
    fault.isOfSystem ∨ fault.cause = .nullCharacter ∧ '\x00' ∈ path ∨
      fault.cause = .tooDeep ∧ depth ≤ (storage.missingAbove path).length := by
  induction depth generalizing path fault with
  | zero =>
      cases failed
      exact .inr (.inr ⟨rfl, Nat.zero_le _⟩)
  | succ depth inductionHypothesis =>
      unfold makeFolders at failed
      dsimp only at failed
      generalize found : (if Path.folder path ≠ [] ∧ Path.folder path ≠ path ∧
          (storage.lookup? (Path.folder path)).isNone then
          storage.makeFolders depth (Path.folder path)
        else (storage, none)) = outer at failed
      split at failed
      · next known stopped =>
          cases failed
          split at found
          · next missing =>
              have outside := congrArg Prod.snd found
              rw [(Option.filter_eq_some_iff.mp stopped).1] at outside
              rw [length_missingAbove missing.1 missing.2.1 missing.2.2]
              exact (inductionHypothesis outside).imp_right
                (.imp (fun ⟨cause, null⟩ => ⟨cause, mem_of_mem_folder null⟩)
                  fun ⟨cause, many⟩ => ⟨cause, Nat.succ_le_succ many⟩)
          · rw [← found] at stopped
            cases stopped
      · split at failed
        · cases failed
        · split at failed
          · cases failed
          · next known making =>
              dsimp only at failed
              split at failed
              · cases failed
              · cases failed
                exact (cause_of_makeFolder making).imp_right .inl

/-- Why a text cannot be saved: for reasons of the system, since the path has a null character,
since too many folders are missing, or since the text has no bytes where the empty text is saved. -/
theorem save_fault_cause {left : Storage} {above : Nat} {content : Codes}
    (failed : storage.save above path content = (left, some fault)) :
    fault.isOfSystem ∨ fault.cause = .nullCharacter ∧ '\x00' ∈ path ∨
      fault.cause = .tooDeep ∧ above < (storage.missingAbove (Path.folder path)).length ∨
      fault = ⟨.unencodable, path⟩ ∧ Text.utf8OfCodes? content = none ∧
        storage.save above path [] = (left, none) := by
  rcases save_fault_cases failed with making | ⟨-, bytes, writing⟩ | ⟨noBytes, rfl, opened⟩
  · have stopped := congrArg Prod.snd making
    unfold makeParents at stopped
    split at stopped
    · cases stopped
    · exact (cause_of_makeFolders stopped).imp_right
        (.imp (fun ⟨cause, null⟩ => ⟨cause, mem_of_mem_folder null⟩) .inl)
  · exact (cause_of_write writing).imp_right .inl
  · exact .inr (.inr (.inr ⟨rfl, noBytes, opened⟩))

end EditorData.Storage

import EditorData.Proofs.Results
import EditorData.Proofs.Storage.Files

/-!
# How far a path reaches

Whether a path can be followed depends on nothing but the kinds of what is at the places on its way,
not on the content of files (`place_trail`). So does every operation on the storage up to the
content that it reads or writes: it is the walk along its path (`reach`) and what is at the place it
ends.
-/

namespace EditorData.Storage

/-- What kind of thing is at a place. -/
inductive Kind where
  | file
  | folder
deriving DecidableEq, Repr

/-- The kind of what is at a place. -/
def Node.kind : Node -> Kind
  | .file _ => .file
  | .folder => .folder

/-- The kind of what is at a place, if anything is there. -/
def kind? (storage : Storage) (place : Place) : Option Kind :=
  (storage.node? place).map Node.kind

/-- The place that a name leads to, or why it leads nowhere, by the kind of what is in front of
it. -/
def stepFrom (place : Place) (name : Text) : (kind : Option Kind) -> Except Cause Place
  | none => .error .missing
  | some .file => .error .notFolder
  | some .folder =>
      if nameLimit < (Text.utf8 name).length then .error .tooLong else .ok (step place name)

/-- The place that names lead to, or why they lead nowhere, by the kinds of what is on the way. -/
def walk (kind? : Place -> Option Kind) (place : Place) : List Text -> Except Cause Place
  | [] => .ok place
  | name :: rest =>
      match stepFrom place name (kind? place) with
      | .error cause => .error cause
      | .ok next => walk kind? next rest

/-- The place that a path leads to, or why it leads nowhere. -/
def reach (storage : Storage) (path : Text) : Except Cause Place :=
  if path.contains '\x00' then .error .nullCharacter
  else if path = [] then .error .missing
  else if pathLimit < (Text.utf8 path).length then .error .tooLong
  else
    walk storage.kind? (if Path.isAbsolute path then [] else storage.current) (Path.names path)

/-- A trail through a root shows the kind of what is at its place. -/
theorem kind?_of_isIn {storage : Storage} {trail : Trail}
    (through : Trail.IsIn storage.root trail.here trail.passed) :
    storage.kind? trail.place = trail.here.map fun tree => tree.node.kind := by
  have shown := Trail.node?_append_of_isIn through []
  rw [List.append_nil] at shown
  rw [kind?, node?, Trail.place, shown]
  cases trail.here <;> rfl

/-- A name is followed by the kind of what is at the trail. -/
theorem place_step_eq (trail : Trail) (name : Text) :
    (trail.step name).map Trail.place =
      stepFrom trail.place name (trail.here.map fun tree => tree.node.kind) := by
  cases stepped : trail.step name with
  | ok next =>
      have place := Trail.place_step stepped
      unfold Trail.step at stepped
      split at stepped
      · cases stepped
      · cases stepped
      · next listing here =>
          split at stepped
          · cases stepped
          · next short =>
              rw [here]
              exact (congrArg Except.ok place).trans (if_neg short).symm
  | error cause =>
      unfold Trail.step at stepped
      split at stepped
      · next here =>
          cases stepped
          rw [here]
          rfl
      · next content here =>
          cases stepped
          rw [here]
          rfl
      · next listing here =>
          split at stepped
          · next long =>
              cases stepped
              rw [here]
              exact (if_pos long).symm
          · split at stepped
            · cases stepped
            · split at stepped <;> cases stepped

/-- Following names from a trail through the root is walking along them. -/
theorem place_follow {storage : Storage} {trail : Trail} (names : List Text)
    (through : Trail.IsIn storage.root trail.here trail.passed) :
    (trail.follow names).map Trail.place = walk storage.kind? trail.place names := by
  induction names generalizing trail with
  | nil => rfl
  | cons name rest inductionHypothesis =>
      have stepping := place_step_eq trail name
      rw [← kind?_of_isIn through] at stepping
      unfold Trail.follow walk
      rw [← stepping]
      cases stepped : trail.step name with
      | error cause => rfl
      | ok next => exact inductionHypothesis (Trail.isIn_step through stepped)

/-- The trail in the current folder shows what is there. -/
theorem here_currentTrail (storage : Storage) :
    storage.currentTrail.here = (Tree.folder storage.root).below? storage.current :=
  Trail.here_enter_all (.start storage.root) storage.current

/-- The trail in the current folder is at its place. -/
theorem place_currentTrail (storage : Storage) :
    storage.currentTrail.place = storage.current :=
  Trail.place_enter_all (.start storage.root) storage.current

/-- Following names from the current folder is walking along them. -/
theorem place_follow_current (storage : Storage) (name : Text) (rest : List Text) :
    (storage.currentTrail.follow (name :: rest)).map Trail.place =
      walk storage.kind? storage.current (name :: rest) := by
  have stepping := place_step_eq storage.currentTrail name
  have kind : storage.kind? storage.current =
      storage.currentTrail.here.map fun tree => tree.node.kind := by
    rw [here_currentTrail, kind?, node?, Tree.node?, Option.map_map]
    rfl
  rw [place_currentTrail, ← kind] at stepping
  cases followed : storage.currentTrail.step name with
  | error cause =>
      unfold Trail.follow walk
      rw [← stepping, followed]
      rfl
  | ok next =>
      -- A name can be followed, so the current folder is there.
      have led : storage.currentTrail.follow [name] = .ok next := by
        simp [Trail.follow, followed]
      rw [place_follow _ (isIn_currentTrail led), place_currentTrail]

/-- A path leads where its walk does. -/
theorem place_trail (storage : Storage) (path : Text) :
    (storage.trail path).map Trail.place = storage.reach path := by
  obtain ⟨name, rest, names⟩ := List.exists_cons_of_ne_nil (Text.parts_ne_nil '/' path)
  have spelled : Path.names path = name :: rest := names
  unfold Storage.trail reach
  split
  · rfl
  split
  · rfl
  split
  · rfl
  rw [spelled]
  split
  · exact place_follow _ (Trail.isIn_start storage.root)
  · exact place_follow_current storage name rest

/-- Where a path leads is its place. -/
theorem reach_ok {storage : Storage} {path : Text} {place : Place}
    (reached : storage.reach path = .ok place) : place = storage.placeOf path := by
  rw [← place_trail] at reached
  obtain ⟨trail, led, same⟩ := ok_of_map reached
  rw [← same]
  exact (isIn_of_trail led).2

/-- Where a path leads and shows no folder, a file may be put. -/
theorem free_of_reach {storage : Storage} {path : Text} {place : Place}
    (reached : storage.reach path = .ok place) (noFolder : storage.node? place ≠ some .folder) :
    storage.Free place := by
  have same := reach_ok reached
  rw [← place_trail] at reached
  obtain ⟨trail, led, -⟩ := ok_of_map reached
  rw [same] at noFolder ⊢
  refine free_of_trail led fun listing here => noFolder ?_
  rw [node?_placeOf led, here]
  rfl

/-- What a path shows is what is at the place where it leads. -/
theorem lookup?_eq (storage : Storage) (path : Text) :
    storage.lookup? path =
      match storage.reach path with
      | .ok place => storage.node? place
      | .error _ => none := by
  rw [← place_trail]
  unfold lookup?
  cases led : storage.trail path with
  | error cause => rfl
  | ok trail =>
      have shown := node?_placeOf led
      rw [← (isIn_of_trail led).2] at shown
      exact shown.symm

/-- What is read through a path is the file at the place where it leads. -/
theorem read_eq (storage : Storage) (path : Text) :
    storage.read path =
      match storage.reach path with
      | .error cause => .error ⟨cause, path⟩
      | .ok place =>
          match storage.node? place with
          | none => .error ⟨.missing, path⟩
          | some .folder => .error ⟨.isFolder, path⟩
          | some (.file content) => .ok content := by
  rw [← place_trail]
  unfold read
  cases led : storage.trail path with
  | error cause => rfl
  | ok trail =>
      have shown := node?_placeOf led
      rw [← (isIn_of_trail led).2] at shown
      dsimp only [Except.map]
      rw [shown]
      cases trail.here with
      | none => rfl
      | some tree => cases tree <;> rfl

/-- A file can be written where a path leads, unless a folder is there. -/
theorem target_eq (storage : Storage) (path : Text) :
    storage.target path =
      match storage.reach path with
      | .error cause => .error ⟨cause, path⟩
      | .ok place =>
          if storage.node? place = some .folder then .error ⟨.isFolder, path⟩ else .ok place := by
  rw [← place_trail]
  unfold target
  cases led : storage.trail path with
  | error cause => rfl
  | ok trail =>
      have shown := node?_placeOf led
      rw [← (isIn_of_trail led).2] at shown
      dsimp only [Except.map]
      rw [shown]
      cases trail.here with
      | none => rfl
      | some tree => cases tree <;> rfl

/-- A folder can be made where a path leads, unless something is there. -/
theorem makeFolder_eq (storage : Storage) (path : Text) :
    storage.makeFolder path =
      match storage.reach path with
      | .error cause => .error ⟨cause, path⟩
      | .ok place =>
          if (storage.node? place).isSome then .error ⟨.occupied, path⟩
          else .ok (storage.put place .folder) := by
  rw [← place_trail]
  unfold makeFolder
  cases led : storage.trail path with
  | error cause => rfl
  | ok trail =>
      have shown := node?_placeOf led
      rw [← (isIn_of_trail led).2] at shown
      dsimp only [Except.map]
      rw [shown]
      cases trail.here with
      | none => rfl
      | some tree => cases tree <;> rfl

end EditorData.Storage

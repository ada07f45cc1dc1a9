import EditorData.Storage.Fault
import EditorData.Storage.Listing
import EditorData.Text.Utf8

/-!
# Following names

A trail is where names have led so far: the tree there, if there is one, and the folders
passed on the way. Every name is looked up in a folder that must exist, also the names that
stay in place or go up. `isIn_step` says that a trail followed in a root stays in it, and
`place_step` which place a name leads to.
-/

namespace EditorData.Storage

/-- The place a name leads to from a folder. -/
def step (place : Place) (name : Text) : Place :=
  if name = [] ∨ name = ['.'] then place
  else if name = ['.', '.'] then place.dropLast
  else place ++ [name]

/-- How many bytes a name may have. -/
def nameLimit : Nat := 255

/-- Where names have led. -/
structure Trail where
  /-- What is there, if anything. -/
  here : Option Tree
  /-- The folders passed, innermost first, each with the name that was looked up in it. -/
  passed : List (Text × Listing)

namespace Trail

/-- The trail that has not left a folder yet. -/
def start (root : Listing) : Trail :=
  ⟨some (.folder root), []⟩

/-- The place of a trail. -/
def place (trail : Trail) : Place :=
  (trail.passed.map Prod.fst).reverse

/-- What is inside the tree of a trail. -/
def inside (trail : Trail) : Listing :=
  (trail.here.map Tree.inside).getD .empty

/-- Look a name up, whatever it is. -/
def enter (trail : Trail) (name : Text) : Trail :=
  ⟨trail.inside.find? name, (name, trail.inside) :: trail.passed⟩

/-- Go back to the folder that was passed last. The root stays in place. -/
def leave (trail : Trail) : Trail :=
  match trail.passed with
  | [] => trail
  | (_, outer) :: rest => ⟨some (.folder outer), rest⟩

/-- Follow a name. -/
def step (trail : Trail) (name : Text) : Except Cause Trail :=
  match trail.here with
  | none => .error .missing
  | some (.file _) => .error .notFolder
  | some (.folder _) =>
      if nameLimit < (Text.utf8 name).length then .error .tooLong
      else if name = [] ∨ name = ['.'] then .ok trail
      else if name = ['.', '.'] then .ok trail.leave
      else .ok (trail.enter name)

/-- Follow names. Nothing needs to be at the last one. -/
def follow (trail : Trail) : List Text -> Except Cause Trail
  | [] => .ok trail
  | name :: rest =>
      match trail.step name with
      | .error cause => .error cause
      | .ok next => next.follow rest

/-- Whether a trail leads through folders of a root: each name passed is one in the listing it
was looked up in, and stands there for what follows. -/
def IsIn (root : Listing) : (here : Option Tree) -> (passed : List (Text × Listing)) -> Prop
  | here, [] => here = some (.folder root)
  | here, (name, outer) :: rest =>
      outer.find? name = here ∧ IsIn root (some (.folder outer)) rest

/-- A trail shows what its root has at its place and below. -/
theorem node?_append_of_isIn {root : Listing} {here : Option Tree}
    {passed : List (Text × Listing)} (through : IsIn root here passed) (below : Place) :
    (Tree.folder root).node? ((passed.map Prod.fst).reverse ++ below) =
      here.bind (·.node? below) := by
  induction passed generalizing here below with
  | nil =>
      simp only [IsIn] at through
      simp [through]
  | cons entry rest inductionHypothesis =>
      obtain ⟨name, outer⟩ := entry
      obtain ⟨found, outside⟩ := through
      have upper := inductionHypothesis outside (name :: below)
      simp only [List.map_cons, List.reverse_cons, List.append_assoc, List.singleton_append]
      rw [upper, Option.bind_some, Tree.node?_cons, Tree.inside_folder, found]

/-- A step stays in the root of a trail. -/
theorem isIn_step {root : Listing} {trail next : Trail} {name : Text}
    (through : IsIn root trail.here trail.passed) (stepped : trail.step name = .ok next) :
    IsIn root next.here next.passed := by
  unfold step at stepped
  split at stepped
  · cases stepped
  · cases stepped
  · next listing here =>
      split at stepped
      · cases stepped
      · split at stepped
        · cases stepped
          exact through
        · split at stepped
          · cases stepped
            unfold leave
            split
            · exact through
            · next entered =>
                rw [entered] at through
                exact through.2
          · cases stepped
            refine ⟨rfl, ?_⟩
            rw [here] at through
            simpa [inside, here] using through

/-- Looking up the names of a folder inside the tree of a trail leads to that folder. -/
theorem isIn_enter_all {root listing : Listing} {trail : Trail} {names : Place}
    (through : IsIn root trail.here trail.passed) (here : trail.here = some (.folder listing))
    (isFolder : (Tree.folder listing).node? names = some .folder) :
    IsIn root (names.foldl enter trail).here (names.foldl enter trail).passed ∧
      (names.foldl enter trail).place = trail.place ++ names := by
  induction names generalizing trail listing with
  | nil => exact ⟨through, by simp⟩
  | cons name rest inductionHypothesis =>
      have within : trail.inside = listing := by simp [inside, here]
      have entered : IsIn root (trail.enter name).here (trail.enter name).passed := by
        refine ⟨rfl, ?_⟩
        rw [here] at through
        rwa [within]
      rw [Tree.node?_cons, Tree.inside_folder] at isFolder
      obtain ⟨tree, found, below⟩ := Option.bind_eq_some_iff.mp isFolder
      have led : (trail.enter name).here = some tree := by
        simpa [enter, within] using found
      cases tree with
      | file content => cases rest <;> simp [Tree.node?, Tree.below?, Tree.node, Tree.inside,
          Listing.find?] at below
      | folder deeper =>
          obtain ⟨still, place⟩ := inductionHypothesis entered led below
          exact ⟨still, by simpa [enter, Trail.place] using place⟩

/-- A step leads to the place that its name leads to. -/
theorem place_step {trail next : Trail} {name : Text} (stepped : trail.step name = .ok next) :
    next.place = Storage.step trail.place name := by
  unfold step at stepped
  split at stepped
  · cases stepped
  · cases stepped
  · split at stepped
    · cases stepped
    · unfold Storage.step
      split at stepped
      · next stays =>
          cases stepped
          rw [if_pos stays]
      · next moves =>
          rw [if_neg moves]
          split at stepped
          · next leaves =>
              cases stepped
              rw [if_pos leaves]
              unfold leave place
              split
              · next entered => simp [entered]
              · next entered => simp [entered]
          · next enters =>
              cases stepped
              rw [if_neg enters]
              simp [enter, place]

end Trail

end EditorData.Storage

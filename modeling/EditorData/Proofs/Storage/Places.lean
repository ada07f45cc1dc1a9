import EditorData.Proofs.Text.Lines
import EditorData.Storage.Basic

/-!
# The places of paths

A path names one place, whatever is there (`placeOf`). Following it either fails or leads to that
place, through folders of the storage (`isIn_of_trail`). So what is there is what the path shows,
and where it shows no folder, a file may be put (`free_of_trail`).
-/

namespace EditorData.Storage

/-- The place that a path names. -/
def placeOf (storage : Storage) (path : Text) : Place :=
  (Path.names path).foldl step (if Path.isAbsolute path then [] else storage.current)

/-- A path keeps its place as long as the current folder stays. -/
theorem placeOf_of_current {before after : Storage} (current : after.current = before.current)
    (path : Text) : after.placeOf path = before.placeOf path := by
  rw [placeOf, placeOf, current]

/-- The names of a path that goes on behind a slash. -/
theorem Path.names_append (folder name : Text) :
    Path.names (folder ++ '/' :: name) = Path.names folder ++ Path.names name :=
  Text.parts_append '/' folder name

/-- A name inside a folder leads from the place of the folder to the place of that name in it. -/
theorem placeOf_join (storage : Storage) {name : Text} (noSlash : '/' ∉ name)
    (leads : ∀ place, step place name = place ++ [name]) (folder : Text) :
    storage.placeOf (Path.join folder name) = storage.placeOf folder ++ [name] := by
  have relative : Path.isAbsolute name = false := by
    cases name with
    | nil => rfl
    | cons c rest =>
        have other : c ≠ '/' := (List.ne_of_not_mem_cons noSlash).symm
        simp [Path.isAbsolute, other]
  have alone : Path.names name = [name] := Text.parts_of_not_mem noSlash
  have behind (front : Text) : storage.placeOf (front ++ '/' :: name) =
      storage.placeOf (front ++ ['/']) ++ [name] := by
    have absolute : Path.isAbsolute (front ++ '/' :: name) =
        Path.isAbsolute (front ++ ['/']) := by cases front <;> rfl
    rw [placeOf, absolute, Path.names_append, alone, List.foldl_append, List.foldl_cons,
      List.foldl_nil, leads, placeOf, Path.names_append, List.foldl_append]
    rfl
  have closed (front : Text) (further : front ≠ []) :
      storage.placeOf (front ++ ['/']) = storage.placeOf front := by
    have absolute : Path.isAbsolute (front ++ ['/']) = Path.isAbsolute front := by
      cases front with
      | nil => exact absurd rfl further
      | cons c rest => rfl
    rw [placeOf, absolute, Path.names_append, List.foldl_append]
    rfl
  rw [Path.join, relative, if_neg Bool.false_ne_true]
  by_cases atEnd : folder = [] ∨ folder.getLast? = some '/'
  · rw [if_pos atEnd]
    rcases atEnd with rfl | slash
    · rw [List.nil_append, placeOf, relative, alone, List.foldl_cons, leads]
      rfl
    · obtain ⟨front, rfl⟩ := List.getLast?_eq_some_iff.1 slash
      rw [List.append_assoc, List.singleton_append, behind]
  · rw [if_neg atEnd, behind, closed folder fun empty => atEnd (.inl empty)]

/-- A place at which a file may be put: no folder, in a folder. -/
structure Free (storage : Storage) (place : Place) : Prop where
  held : storage.node? place.dropLast = some .folder
  noFolder : storage.node? place ≠ some .folder

/-- The root is no free place. -/
theorem Free.below {storage : Storage} {place : Place} (free : storage.Free place) :
    place ≠ [] :=
  fun atRoot => free.noFolder (by simpa [atRoot] using free.held)

/-- What is below a place inside a tree is below the tree at that place. -/
theorem Tree.below?_append (tree : Tree) (outer inner : Place) :
    tree.below? (outer ++ inner) = (tree.below? outer).bind (·.below? inner) := by
  induction outer generalizing tree with
  | nil => rfl
  | cons name rest inductionHypothesis =>
      simp only [List.cons_append, Tree.below?]
      cases tree.inside.find? name with
      | none => rfl
      | some found => exact inductionHypothesis found

/-- A file is in a folder. -/
theorem free_of_file {storage : Storage} {place : Place} {content : List UInt8}
    (isFile : storage.node? place = some (.file content)) : storage.Free place := by
  refine ⟨?_, by simp [isFile]⟩
  rcases List.eq_nil_or_concat place with atRoot | ⟨outer, name, ends⟩
  · subst atRoot
    cases isFile
  · rw [List.concat_eq_append] at ends
    subst ends
    rw [List.dropLast_concat]
    rw [node?, Tree.node?, Tree.below?_append] at isFile
    rw [node?, Tree.node?]
    cases found : (Tree.folder storage.root).below? outer with
    | none => simp [found] at isFile
    | some tree =>
        cases tree with
        | file old => simp [found, Tree.below?, Tree.inside, Listing.find?] at isFile
        | folder inside => rfl

namespace Trail

/-- A trail starts in its root. -/
theorem isIn_start (root : Listing) : IsIn root (start root).here (start root).passed :=
  rfl

/-- Looking names up one by one shows what is below. -/
theorem here_enter_all (trail : Trail) (names : Place) :
    (names.foldl enter trail).here = trail.here.bind (·.below? names) := by
  induction names generalizing trail with
  | nil => cases here : trail.here <;> simp [here, Tree.below?]
  | cons name rest inductionHypothesis =>
      rw [List.foldl_cons, inductionHypothesis]
      cases here : trail.here <;> simp [enter, inside, here, Tree.below?, Listing.find?]

/-- Looking names up one by one leads to their place. -/
theorem place_enter_all (trail : Trail) (names : Place) :
    (names.foldl enter trail).place = trail.place ++ names := by
  induction names generalizing trail with
  | nil => simp
  | cons name rest inductionHypothesis =>
      rw [List.foldl_cons, inductionHypothesis]
      simp [enter, place]

/-- Names lead to the place that they name, through the root of the trail. -/
theorem isIn_follow {root : Listing} {trail last : Trail} {names : List Text}
    (through : IsIn root trail.here trail.passed) (followed : trail.follow names = .ok last) :
    IsIn root last.here last.passed ∧ last.place = names.foldl Storage.step trail.place := by
  induction names generalizing trail with
  | nil =>
      cases followed
      exact ⟨through, rfl⟩
  | cons name rest inductionHypothesis =>
      simp only [follow] at followed
      split at followed
      · cases followed
      · next stepped =>
          obtain ⟨still, led⟩ := inductionHypothesis (isIn_step through stepped) followed
          exact ⟨still, by rw [led, place_step stepped, List.foldl_cons]⟩

/-- A name can only be followed in a folder. -/
theorem here_of_follow_cons {trail last : Trail} {name : Text} {rest : List Text}
    (followed : trail.follow (name :: rest) = .ok last) :
    ∃ listing, trail.here = some (.folder listing) := by
  simp only [follow] at followed
  split at followed
  · cases followed
  · next stepped =>
      unfold step at stepped
      split at stepped
      · cases stepped
      · cases stepped
      · next listing here => exact ⟨listing, here⟩

end Trail

/-- Names that can be followed from the current folder are followed in the storage. -/
theorem isIn_currentTrail {storage : Storage} {name : Text} {rest : List Text} {last : Trail}
    (followed : storage.currentTrail.follow (name :: rest) = .ok last) :
    Trail.IsIn storage.root storage.currentTrail.here storage.currentTrail.passed := by
  obtain ⟨listing, here⟩ := Trail.here_of_follow_cons followed
  rw [currentTrail, Trail.here_enter_all] at here
  have standing : (Tree.folder storage.root).node? storage.current = some .folder := by
    rw [Tree.node?, show (Tree.folder storage.root).below? storage.current = _ from here]
    rfl
  exact (Trail.isIn_enter_all (Trail.isIn_start storage.root) rfl standing).1

/-- A path leads to its place, through folders of the storage. -/
theorem isIn_of_trail {storage : Storage} {path : Text} {trail : Trail}
    (led : storage.trail path = .ok trail) :
    Trail.IsIn storage.root trail.here trail.passed ∧ trail.place = storage.placeOf path := by
  obtain ⟨name, rest, names⟩ := List.exists_cons_of_ne_nil (Text.parts_ne_nil '/' path)
  have spelled : Path.names path = name :: rest := names
  unfold Storage.trail at led
  split at led
  · cases led
  split at led
  · cases led
  split at led
  · cases led
  rw [spelled] at led
  rw [placeOf, spelled]
  split at led
  · next absolute =>
      rw [if_pos absolute]
      exact Trail.isIn_follow (Trail.isIn_start storage.root) led
  · next relative =>
      rw [if_neg relative]
      have followed := Trail.isIn_follow (isIn_currentTrail led) led
      rwa [currentTrail, Trail.place_enter_all] at followed

/-- A path shows what is at its place. -/
theorem node?_placeOf {storage : Storage} {path : Text} {trail : Trail}
    (led : storage.trail path = .ok trail) :
    storage.node? (storage.placeOf path) = trail.here.map Tree.node := by
  obtain ⟨through, place⟩ := isIn_of_trail led
  have shown := Trail.node?_append_of_isIn through []
  rw [List.append_nil] at shown
  rw [← place, node?, Trail.place, shown]
  cases trail.here <;> rfl

/-- The place of a path that shows no folder is free. -/
theorem free_of_trail {storage : Storage} {path : Text} {trail : Trail}
    (led : storage.trail path = .ok trail)
    (noFolder : ∀ listing, trail.here ≠ some (.folder listing)) :
    storage.Free (storage.placeOf path) := by
  obtain ⟨through, place⟩ := isIn_of_trail led
  have shown := node?_placeOf led
  refine ⟨?_, ?_⟩
  · obtain ⟨here, passed⟩ := trail
    rw [← place]
    cases passed with
    | nil => exact absurd through (noFolder storage.root)
    | cons entry rest =>
        obtain ⟨name, outer⟩ := entry
        have outside := Trail.node?_append_of_isIn through.2 []
        rw [List.append_nil] at outside
        simpa [Trail.place, node?] using outside
  · rw [shown]
    cases here : trail.here with
    | none => simp
    | some tree =>
        cases tree with
        | file content => simp [Tree.node]
        | folder listing => exact absurd here (noFolder listing)

end EditorData.Storage

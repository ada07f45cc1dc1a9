import EditorData.Proofs.Storage.Growth
import EditorData.Proofs.Text.Lines

/-!
# The folders that lead to a file

Where a path can be followed, its folder part can be followed too, and shows a folder
(`Shows.folder`). So no folder has to be made where one saves to a path that shows a file, and the
file can be saved (`save_of_shows`).
-/

namespace EditorData.Storage

/-- A path begins with its folder part, which consists of slashes, or which a slash follows. -/
theorem folder_cases (path : Text) :
    ∃ rest, path = Path.folder path ++ rest ∧
      ((∀ c ∈ Path.folder path, c = '/') ∨ ∃ more, rest = '/' :: more) := by
  obtain ⟨tail, whole⟩ : ∃ tail, path = (path.reverse.dropWhile (· != '/')).reverse ++ tail := by
    refine ⟨(path.reverse.takeWhile (· != '/')).reverse, ?_⟩
    rw [← List.reverse_append, List.takeWhile_append_dropWhile, List.reverse_reverse]
  have ends : ∀ c, (path.reverse.dropWhile (· != '/')).reverse.getLast? = some c → c = '/' := by
    intro c last
    rw [List.getLast?_reverse] at last
    have stopped := List.head?_dropWhile_not (· != '/') path.reverse
    rw [last] at stopped
    simpa using stopped
  unfold Path.folder
  dsimp only
  generalize (path.reverse.dropWhile (· != '/')).reverse = head at whole ends
  split
  · next slashes => exact ⟨tail, whole, .inl (by simpa using slashes)⟩
  · next other =>
      obtain ⟨trailing, split, trimmed⟩ := Text.exists_trimmedOff (· == '/') head
      cases trailing with
      | nil =>
          -- Nothing has been trimmed off, so the head is empty and consists of slashes.
          rw [List.append_nil] at split
          cases last : head.getLast? with
          | none =>
              rw [List.getLast?_eq_none_iff.mp last] at other
              simp at other
          | some c =>
              have slash := ends c last
              rw [split] at last
              exact (Text.getLast?_trimEnd_ne (· == '/') head (by simp [slash]) last).elim
      | cons c more =>
          have slash : c = '/' := by simpa using trimmed c List.mem_cons_self
          refine ⟨'/' :: more ++ tail, ?_, .inr ⟨more ++ tail, rfl⟩⟩
          calc path = head ++ tail := whole
            _ = Text.trimEnd (· == '/') head ++ c :: more ++ tail := congrArg (· ++ tail) split
            _ = Text.trimEnd (· == '/') head ++ ('/' :: more ++ tail) := by
                rw [slash, List.append_assoc]

/-- Names are walked along one after the other. -/
theorem walk_append (kind? : Place -> Option Kind) (place : Place) (front back : List Text) :
    walk kind? place (front ++ back) =
      match walk kind? place front with
      | .error cause => .error cause
      | .ok reached => walk kind? reached back := by
  induction front generalizing place with
  | nil => rfl
  | cons name rest inductionHypothesis =>
      rw [List.cons_append, walk, walk]
      split
      · rfl
      · exact inductionHypothesis _

/-- Walking goes through folders only. -/
theorem kind?_of_walk_cons {kind? : Place -> Option Kind} {place reached : Place} {name : Text}
    {rest : List Text} (led : walk kind? place (name :: rest) = .ok reached) :
    kind? place = some .folder := by
  unfold walk at led
  cases kind : kind? place with
  | none =>
      rw [kind] at led
      cases led
  | some found =>
      cases found with
      | file =>
          rw [kind] at led
          cases led
      | folder => rfl

/-- The root is a folder. -/
theorem kind?_root (storage : Storage) : storage.kind? [] = some .folder :=
  rfl

/-- Empty names stay in the root. -/
theorem walk_root (storage : Storage) (names : List Text) (empty : ∀ name ∈ names, name = []) :
    walk storage.kind? [] names = .ok [] := by
  induction names with
  | nil => rfl
  | cons name rest inductionHypothesis =>
      rw [empty name List.mem_cons_self]
      exact inductionHypothesis fun other within => empty other (List.mem_cons_of_mem name within)

/-- The names of a path that consists of slashes are empty. -/
theorem parts_of_slashes {path : Text} (slashes : ∀ c ∈ path, c = '/') :
    ∀ name ∈ Path.names path, name = [] := by
  induction path with
  | nil => exact fun name within => List.mem_singleton.mp within
  | cons c rest inductionHypothesis =>
      intro name within
      rw [Path.names, Text.parts, if_pos (slashes c List.mem_cons_self)] at within
      rcases List.mem_cons.mp within with empty | later
      · exact empty
      · exact inductionHypothesis (fun d held => slashes d (List.mem_cons_of_mem c held)) name later

variable {storage : Storage} {path : Text} {kind : Kind}

/-- What a path must be like to be followed at all. -/
structure Usable (path : Text) : Prop where
  noNull : '\x00' ∉ path
  nonempty : path ≠ []
  short : (Text.utf8 path).length ≤ pathLimit

/-- A path that can be followed at all is walked along. -/
theorem Usable.reach (usable : Usable path) (storage : Storage) :
    storage.reach path =
      walk storage.kind? (if Path.isAbsolute path then [] else storage.current)
        (Path.names path) := by
  unfold Storage.reach
  rw [if_neg (by simpa using usable.noNull), if_neg usable.nonempty,
    if_neg (Nat.not_lt.mpr usable.short)]

/-- A path that leads somewhere can be followed. -/
theorem usable_of_reach {place : Place} (led : storage.reach path = .ok place) : Usable path := by
  unfold reach at led
  split at led
  · cases led
  next noNull =>
    split at led
    · cases led
    next nonempty =>
      split at led
      · cases led
      next short => exact ⟨by simpa using noNull, nonempty, Nat.not_lt.mp short⟩

/-- A beginning of a path that can be followed at all can be so too. -/
theorem Usable.front {front rest : Text} (usable : Usable (front ++ rest)) (given : front ≠ []) :
    Usable front := by
  refine ⟨?_, given, ?_⟩
  · exact fun null => usable.noNull (List.mem_append_left rest null)
  · have short := usable.short
    unfold Text.utf8 at short ⊢
    rw [List.flatMap_append, List.length_append] at short
    omega

/-- Where a path shows something, its folder part shows a folder. -/
theorem Shows.folder (shown : storage.Shows path kind) (given : Path.folder path ≠ []) :
    storage.Shows (Path.folder path) .folder := by
  obtain ⟨rest, whole, ends⟩ := folder_cases path
  have usable := usable_of_reach shown.reached
  have usableFront : Usable (Path.folder path) := by
    rw [whole] at usable
    exact usable.front given
  rcases ends with slashes | ⟨more, slash⟩
  · obtain ⟨c, others, spelled⟩ := List.exists_cons_of_ne_nil given
    have absolute : Path.isAbsolute (Path.folder path) := by
      rw [spelled, slashes c (spelled ▸ List.mem_cons_self)]
      rfl
    have led : storage.reach (Path.folder path) = .ok [] := by
      rw [usableFront.reach, if_pos absolute]
      exact walk_root storage _ (parts_of_slashes slashes)
    exact shows_of_reach led (kind?_root storage)
  · have walked := shown.reached
    rw [usable.reach] at walked
    generalize Path.folder path = front at *
    rw [slash] at whole
    obtain ⟨c, others, spelled⟩ := List.exists_cons_of_ne_nil given
    have absolute : Path.isAbsolute path = Path.isAbsolute front := by
      rw [whole, spelled]
      rfl
    obtain ⟨name, names, next⟩ := List.exists_cons_of_ne_nil (Text.parts_ne_nil '/' more)
    have names : Path.names path = Path.names front ++ name :: names := by
      rw [whole, Path.names, Text.parts_append, next]
      rfl
    rw [absolute, names, walk_append] at walked
    split at walked
    · cases walked
    · next reached led =>
        exact shows_of_reach ((usableFront.reach storage).trans led) (kind?_of_walk_cons walked)

/-- Where a path shows a folder, no folder has to be made. -/
theorem makeFolders_of_shows (shown : storage.Shows path .folder) (depth : Nat) :
    storage.makeFolders (depth + 1) path = (storage, none) := by
  have present : ¬ (Path.folder path ≠ [] ∧ Path.folder path ≠ path ∧
      (storage.lookup? (Path.folder path)).isNone = true) := by
    rintro ⟨given, -, missing⟩
    rw [(shown.folder given).lookup?] at missing
    cases missing
  have occupied : storage.makeFolder path = .error ⟨.occupied, path⟩ := by
    have isFolder := node?_eq_folder_iff.mpr shown.kind
    rw [makeFolder_eq, shown.reached]
    dsimp only
    rw [isFolder]
    rfl
  unfold makeFolders
  dsimp only
  rw [if_neg present]
  dsimp only [Option.filter]
  rw [if_neg fun both => present both.1, occupied]
  dsimp only
  rw [if_pos shown.lookup?]

/-- Where the folder part of a path is empty or shows a folder, no folder has to be made. -/
theorem makeParents_of_shows (above : Nat)
    (shown : Path.folder path ≠ [] → storage.Shows (Path.folder path) .folder) :
    storage.makeParents above path = (storage, none) := by
  unfold makeParents
  split
  · rfl
  · next given => exact makeFolders_of_shows (shown given) _

/-- Where a path shows a file, a text with bytes can be saved in its place. -/
theorem save_of_shows (shown : storage.Shows path .file) (above : Nat) {content : Codes}
    {bytes : List UInt8} (encoded : Text.utf8OfCodes? content = some bytes) :
    ∃ saved, storage.save above path content = (saved, none) := by
  have target : storage.target path = .ok (storage.placeOf path) := by
    have noFolder : storage.node? (storage.placeOf path) ≠ some .folder := by
      rw [Ne, node?_eq_folder_iff, shown.kind]
      simp
    rw [target_eq, shown.reached]
    dsimp only
    rw [if_neg noFolder]
  unfold save
  rw [makeParents_of_shows above shown.folder, encoded]
  dsimp only [write]
  rw [target]
  exact ⟨_, rfl⟩

end EditorData.Storage

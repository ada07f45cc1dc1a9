import EditorData.Generation.Job
import EditorData.Proofs.Storage.Deepening

/-!
# Saving one file after the other

Texts are saved at paths, one after the other (`attempts`). An attempt that succeeds puts the bytes
of its text at the place of its path and leaves all other files alone (`Attempt.Succeeded`). One
that fails and is reported leaves all files alone (`Attempt.Failed`), and so does one that fails
without a report for its path (`Attempt.Escaped`). But a text that has no bytes empties the file at
its place, also without a report (`Attempt.Emptied`). Nothing else is made but missing folders that
lead to the place. So in the end a file has what the last attempt to open it has left there
(`attempts_touch`).
-/

namespace EditorData.Generation

open Storage (Place Deepens)

/-- An attempt to save a text at a path, with the storages before and after it, and the fault if it
has failed. -/
structure Attempt where
  path : Text
  content : Codes
  before : Storage
  after : Storage
  fault : Option Storage.Fault

namespace Attempt

/-- Save a text at a path, where at once so many folders may be made above the one of the file. -/
def make (above : Nat) (storage : Storage) (path : Text) (content : Codes) : Attempt :=
  let (after, fault) := storage.save above path content
  ⟨path, content, storage, after, fault⟩

/-- The place of the path. -/
def place (attempt : Attempt) : Place :=
  attempt.before.placeOf attempt.path

/-- What is reported of the attempt. -/
def reports (attempt : Attempt) : List Logging.Entry :=
  match attempt.fault with
  | none => []
  | some fault => saveReports attempt.path fault

/-- The text has been saved: its bytes are at the place, and nothing is different elsewhere, apart
from folders that were missing and lead to the place. -/
structure Succeeded (attempt : Attempt) (bytes : List UInt8) : Prop where
  noFault : attempt.fault = none
  silent : attempt.reports = []
  encoded : Text.utf8OfCodes? attempt.content = some bytes
  written : attempt.after.file? attempt.place = some bytes
  readable : attempt.after.read attempt.path = .ok bytes
  others : ∀ place, place ≠ attempt.place →
    attempt.after.file? place = attempt.before.file? place
  folders : ∀ place, place ≠ attempt.place →
    attempt.after.node? place = attempt.before.node? place ∨
      place <+: attempt.place ∧ attempt.before.node? place = none ∧
        attempt.after.node? place = some .folder

/-- The path could not be used: it did not lead to a file, all files are as before, and nothing is
different apart from folders that were missing and lead to the place. -/
structure Untouched (attempt : Attempt) (fault : Storage.Fault) : Prop where
  faulty : attempt.fault = some fault
  noFile : ¬attempt.before.Shows attempt.path .file
  files : ∀ place, attempt.after.file? place = attempt.before.file? place
  folders : Deepens attempt.place attempt.before attempt.after

/-- The text has not been saved for a fault of the system, which is reported once. -/
structure Failed (attempt : Attempt) (fault : Storage.Fault) : Prop
    extends attempt.Untouched fault where
  ofSystem : fault.isOfSystem = true
  reported : attempt.reports =
    [⟨.error, "Error saving file ".toList ++ attempt.path ++ ": ".toList ++ fault.message⟩]

/-- The text has not been saved for a fault that is none of the system, and nothing is reported. The
path has a null character, or too many of the folders above its own one are missing. -/
structure Escaped (attempt : Attempt) (above : Nat) (fault : Storage.Fault) : Prop
    extends attempt.Untouched fault where
  notOfSystem : fault.isOfSystem = false
  silent : attempt.reports = []
  cause : fault.cause = .nullCharacter ∧ '\x00' ∈ attempt.path ∨
    fault.cause = .tooDeep ∧
      above < (attempt.before.missingAbove (Storage.Path.folder attempt.path)).length

/-- The text has no bytes, which nothing reports, and what is left is what the empty text would have
left. -/
structure Emptied (attempt : Attempt) : Prop where
  faulty : attempt.fault = some ⟨.unencodable, attempt.path⟩
  silent : attempt.reports = []
  noBytes : Text.utf8OfCodes? attempt.content = none
  opened : { attempt with content := [], fault := none }.Succeeded []

/-- How an attempt may end. -/
inductive Outcome (attempt : Attempt) (above : Nat) : Prop where
  | succeeded (bytes : List UInt8) (done : attempt.Succeeded bytes)
  | failed (fault : Storage.Fault) (failed : attempt.Failed fault)
  | escaped (fault : Storage.Fault) (escaped : attempt.Escaped above fault)
  | emptied (emptied : attempt.Emptied)

/-- The bytes that the attempt has left at a place, if it has opened a file there. -/
def left? (attempt : Attempt) (place : Place) : Option (List UInt8) :=
  if attempt.place = place ∧ attempt.fault.all (·.cause = .unencodable) then
    some ((Text.utf8OfCodes? attempt.content).getD [])
  else none

end Attempt

/-- Save texts at paths, one after the other, whether some of them fail or not. -/
def attempts (above : Nat) (storage : Storage) : List (Text × Codes) -> List Attempt
  | [] => []
  | (path, content) :: rest =>
      let first := Attempt.make above storage path content
      first :: attempts above first.after rest

/-- The storage when all attempts have been made. -/
def afterAll (above : Nat) (storage : Storage) (saves : List (Text × Codes)) : Storage :=
  saves.foldl (fun storage (path, content) => (Attempt.make above storage path content).after)
    storage

/-- The bytes that the last attempt to open the file at a place has left there. -/
def lastLeft? (attempts : List Attempt) (place : Place) : Option (List UInt8) :=
  attempts.reverse.findSome? fun attempt => attempt.left? place

section Outcomes

variable {above : Nat} {storage after : Storage} {path : Text} {content : Codes}
  {fault : Storage.Fault}

/-- A text that has been saved is where its path leads. -/
theorem succeeded_of_save (level : ['.', '.'] ∉ Storage.Path.names path)
    (saving : storage.save above path content = (after, none)) :
    ∃ bytes, (Attempt.mk path content storage after none).Succeeded bytes := by
  obtain ⟨⟨bytes, encoded, written⟩, others⟩ := Storage.save_ok saving
  obtain ⟨found, held, readable⟩ := (Storage.save_shows saving).read
  rw [others.placeOf, written] at held
  cases held
  exact ⟨bytes,
    { noFault := rfl
      silent := rfl
      encoded
      written
      readable
      others := fun place different => others.files place (mt List.mem_singleton.mp different)
      folders := Storage.save_ok_nodes level saving }⟩

/-- A path that cannot be used leads to no file. -/
theorem untouched_of_save (level : ['.', '.'] ∉ Storage.Path.names path)
    (saving : storage.save above path content = (after, some fault))
    (other : fault.cause ≠ .unencodable) :
    (Attempt.mk path content storage after (some fault)).Untouched fault where
  faulty := rfl
  noFile shown := by
    cases encoded : Text.utf8OfCodes? content with
    | some bytes =>
        obtain ⟨saved, done⟩ := Storage.save_of_shows shown above encoded
        cases saving.symm.trans done
    | none =>
        obtain ⟨saved, done⟩ := Storage.save_of_shows shown above (show
          Text.utf8OfCodes? [] = some [] from rfl)
        cases saving.symm.trans (Storage.save_unencodable encoded done)
        exact other rfl
  files place := by
    rcases Storage.save_fault saving with agree | ⟨-, rfl, -⟩
    · exact agree.files place List.not_mem_nil
    · exact absurd rfl other
  folders := by
    rcases Storage.save_fault_deepens level saving with deepens | ⟨-, rfl, -⟩
    · exact deepens
    · exact absurd rfl other

/-- An attempt at a path that does not go up has one of the outcomes. -/
theorem outcome_make (storage : Storage) (content : Codes)
    (level : ['.', '.'] ∉ Storage.Path.names path) :
    (Attempt.make above storage path content).Outcome above := by
  cases saving : storage.save above path content with
  | mk after outcome =>
      have made : Attempt.make above storage path content =
          ⟨path, content, storage, after, outcome⟩ := by
        rw [Attempt.make, saving]
      rw [made]
      cases outcome with
      | none =>
          obtain ⟨bytes, done⟩ := succeeded_of_save level saving
          exact .succeeded bytes done
      | some fault =>
          have untouched := untouched_of_save level saving
          rcases Storage.save_fault_cause saving with
            ofSystem | ⟨cause, null⟩ | ⟨cause, many⟩ | ⟨rfl, noBytes, opened⟩
          · refine .failed fault ⟨untouched fun same => ?_, ofSystem, if_pos ofSystem⟩
            simp [Storage.Fault.isOfSystem, same] at ofSystem
          · have notOfSystem : fault.isOfSystem = false := by simp [Storage.Fault.isOfSystem, cause]
            exact .escaped fault ⟨untouched (by simp [cause]), notOfSystem,
              if_neg (by simp [notOfSystem]), .inl ⟨cause, null⟩⟩
          · have notOfSystem : fault.isOfSystem = false := by simp [Storage.Fault.isOfSystem, cause]
            exact .escaped fault ⟨untouched (by simp [cause]), notOfSystem,
              if_neg (by simp [notOfSystem]), .inr ⟨cause, many⟩⟩
          · obtain ⟨bytes, done⟩ := succeeded_of_save level opened
            obtain rfl : [] = bytes := Option.some.inj done.encoded
            exact .emptied ⟨rfl, rfl, noBytes, done⟩

/-- An attempt empties a file exactly if the text has no bytes and the empty text is saved. -/
theorem emptied_make_iff (storage : Storage) (content : Codes)
    (level : ['.', '.'] ∉ Storage.Path.names path) :
    (Attempt.make above storage path content).Emptied ↔
      Text.utf8OfCodes? content = none ∧ (storage.save above path []).2 = none := by
  constructor
  · intro emptied
    refine ⟨emptied.noBytes, ?_⟩
    have faulty : (storage.save above path content).2 = some ⟨.unencodable, path⟩ := emptied.faulty
    rcases Storage.save_fault_cause (Prod.ext rfl faulty) with
      ⟨⟨⟩⟩ | ⟨⟨⟩, -⟩ | ⟨⟨⟩, -⟩ | ⟨-, -, opened⟩
    rw [opened]
  · rintro ⟨noBytes, saves⟩
    have opened : storage.save above path [] = ((storage.save above path []).1, none) :=
      Prod.ext rfl saves
    have made : Attempt.make above storage path content =
        ⟨path, content, storage, (storage.save above path []).1, some ⟨.unencodable, path⟩⟩ := by
      rw [Attempt.make, Storage.save_unencodable noBytes opened]
    obtain ⟨bytes, done⟩ := succeeded_of_save level opened
    obtain rfl : [] = bytes := Option.some.inj done.encoded
    rw [made]
    exact ⟨rfl, rfl, noBytes, done⟩

end Outcomes

namespace Attempt.Outcome

variable {attempt : Attempt} {above : Nat}

/-- An attempt ends as it should exactly if it has no fault but one of the system. -/
theorem proper_iff (outcome : attempt.Outcome above) :
    ((∃ bytes, attempt.Succeeded bytes) ∨ ∃ fault, attempt.Failed fault) ↔
      ∀ fault, attempt.fault = some fault → fault.isOfSystem = true := by
  constructor
  · rintro (⟨bytes, done⟩ | ⟨known, failed⟩) fault faulty
    · cases done.noFault.symm.trans faulty
    · cases failed.faulty.symm.trans faulty
      exact failed.ofSystem
  · intro ofSystem
    cases outcome with
    | succeeded bytes done => exact .inl ⟨bytes, done⟩
    | failed fault failed => exact .inr ⟨fault, failed⟩
    | escaped fault escaped =>
        cases escaped.notOfSystem.symm.trans (ofSystem fault escaped.faulty)
    | emptied emptied => cases ofSystem _ emptied.faulty

/-- An attempt changes the file at its place, if it opens it, and no other. -/
theorem file?_after (outcome : attempt.Outcome above) (place : Place) :
    attempt.after.file? place = (attempt.left? place).or (attempt.before.file? place) := by
  have opened {content : List UInt8} {present : Prop} [Decidable present] (holds : present)
      (written : attempt.after.file? attempt.place = some content)
      (others : ∀ place, place ≠ attempt.place →
        attempt.after.file? place = attempt.before.file? place) :
      attempt.after.file? place =
        (if attempt.place = place ∧ present then some content else none).or
          (attempt.before.file? place) := by
    by_cases same : attempt.place = place
    · rw [if_pos ⟨same, holds⟩, ← same]
      exact written
    · rw [if_neg fun both => same both.1]
      exact others place (Ne.symm same)
  have closed {fault : Storage.Fault} (untouched : attempt.Untouched fault)
      (other : fault.cause ≠ .unencodable) : attempt.after.file? place =
        (attempt.left? place).or (attempt.before.file? place) := by
    rw [left?, untouched.faulty, if_neg (by simp [other])]
    exact untouched.files place
  cases outcome with
  | succeeded bytes done =>
      rw [left?, done.noFault, done.encoded]
      exact opened rfl done.written done.others
  | failed fault failed =>
      refine closed failed.toUntouched fun same => ?_
      have ofSystem := failed.ofSystem
      simp [Storage.Fault.isOfSystem, same] at ofSystem
  | escaped fault escaped =>
      refine closed escaped.toUntouched ?_
      rcases escaped.cause with ⟨cause, -⟩ | ⟨cause, -⟩ <;> simp [cause]
  | emptied emptied =>
      rw [left?, emptied.faulty, emptied.noBytes]
      exact opened rfl emptied.opened.written emptied.opened.others

end Attempt.Outcome

/-- Texts are saved one after the other. Each attempt succeeds, and then it touches no other file;
or it fails for a reported fault of the system, and touches no file at all; or it escapes without a
report; or it empties the file at its place without a report. In the first two cases it has no fault
but one of the system, and the last case is that of a text without bytes where the empty text is
saved. Nothing is made but missing folders on the way to the place. In the end a file has what the
last attempt to open it has left there, or what it had at the start. -/
theorem attempts_touch (above : Nat) (storage : Storage) {saves : List (Text × Codes)}
    (level : ∀ save ∈ saves, ['.', '.'] ∉ Storage.Path.names save.1) :
    (∀ attempt ∈ attempts above storage saves, attempt.Outcome above ∧
      (((∃ bytes, attempt.Succeeded bytes) ∨ ∃ fault, attempt.Failed fault) ↔
        ∀ fault, attempt.fault = some fault → fault.isOfSystem = true) ∧
      (attempt.Emptied ↔ Text.utf8OfCodes? attempt.content = none ∧
        (attempt.before.save above attempt.path []).2 = none)) ∧
      ∀ place, (afterAll above storage saves).file? place =
        (lastLeft? (attempts above storage saves) place).or (storage.file? place) := by
  induction saves generalizing storage with
  | nil => exact ⟨nofun, fun _ => rfl⟩
  | cons save rest inductionHypothesis =>
      obtain ⟨path, content⟩ := save
      obtain ⟨levelFirst, others⟩ := List.forall_mem_cons.mp level
      have first : (Attempt.make above storage path content).Outcome above :=
        outcome_make storage content levelFirst
      obtain ⟨later, files⟩ :=
        inductionHypothesis (Attempt.make above storage path content).after others
      refine ⟨List.forall_mem_cons.mpr
        ⟨⟨first, first.proper_iff, emptied_make_iff storage content levelFirst⟩, later⟩,
        fun place => ?_⟩
      rw [attempts, lastLeft?, List.reverse_cons, List.findSome?_append, Option.or_assoc,
        List.findSome?_singleton]
      exact (files place).trans (congrArg _ (first.file?_after place))

/-- A file is saved, its folder and its content are tried as places of files, and it is saved
again. -/
def clashingSaves : List (Text × Codes) :=
  [("out/b".toList, Text.codes "one\r\n".toList), ("out".toList, Text.codes "two".toList),
    ("out/b/c".toList, Text.codes "three".toList), ("out/b".toList, Text.codes "é\n".toList)]

/-- What has been saved stays through the attempts that fail, each of which is reported. -/
theorem attempts_touch_clashingSaves :
    (∀ save ∈ clashingSaves, ['.', '.'] ∉ Storage.Path.names save.1) ∧
      (∀ attempt ∈ attempts 992 (.empty []) clashingSaves,
        (∃ bytes, attempt.Succeeded bytes) ∨ ∃ fault, attempt.Failed fault) ∧
      (attempts 992 (.empty []) clashingSaves).map Attempt.reports =
        [[], [⟨.error, "Error saving file out: [Errno 21] Is a directory: 'out'".toList⟩],
          [⟨.error, "Error saving file out/b/c: [Errno 17] File exists: 'out/b'".toList⟩], []] ∧
      (afterAll 992 (.empty []) clashingSaves).file? ["out".toList, "b".toList] =
        some [0xC3, 0xA9, 0x0A] := by
  have level : ∀ save ∈ clashingSaves, ['.', '.'] ∉ Storage.Path.names save.1 := by decide
  obtain ⟨outcomes, files⟩ := attempts_touch 992 (.empty []) level
  have checked : ((attempts 992 (.empty []) clashingSaves).all fun attempt =>
      attempt.fault.all Storage.Fault.isOfSystem) = true := by decide
  have ofSystem : ∀ attempt ∈ attempts 992 (.empty []) clashingSaves,
      ∀ fault, attempt.fault = some fault → fault.isOfSystem = true := by
    intro attempt member fault faulty
    have held := List.all_eq_true.mp checked attempt member
    rwa [faulty] at held
  exact ⟨level, fun attempt member => (outcomes attempt member).2.1.mpr (ofSystem attempt member),
    by decide, (files _).trans (by decide)⟩

/-- Folders in one another, with a file in the last one. -/
def ladder : Nat -> Text
  | 0 => ['a']
  | count + 1 => ladder count ++ ['/', 'a']

/-- A ladder has one name for each folder, and one more. -/
theorem names_ladder (count : Nat) :
    Storage.Path.names (ladder count) = List.replicate (count + 1) ['a'] := by
  induction count with
  | zero => rfl
  | succ count inductionHypothesis =>
      rw [ladder, Storage.Path.names_append, inductionHypothesis,
        List.replicate_succ' (n := count + 1)]
      rfl

/-- A ladder begins and ends with a name. -/
theorem ends_ladder (count : Nat) :
    (ladder count).head? = some 'a' ∧ ∃ front, ladder count = front ++ ['a'] := by
  induction count with
  | zero => exact ⟨rfl, [], rfl⟩
  | succ count inductionHypothesis =>
      refine ⟨?_, ladder count ++ ['/'], ?_⟩
      · rw [ladder, List.head?_append, inductionHypothesis.1]
        rfl
      · rw [ladder, List.append_assoc]
        rfl

/-- A ladder is not empty. -/
theorem ladder_ne_nil (count : Nat) : ladder count ≠ [] := by
  obtain ⟨-, front, spelled⟩ := ends_ladder count
  rw [spelled]
  exact List.append_ne_nil_of_right_ne_nil front (List.cons_ne_nil _ _)

/-- The folder part of a ladder is the next lower one. -/
theorem folder_ladder (count : Nat) : Storage.Path.folder (ladder (count + 1)) = ladder count := by
  obtain ⟨-, front, spelled⟩ := ends_ladder count
  have head : ((ladder (count + 1)).reverse.dropWhile (· != '/')).reverse =
      front ++ 'a' :: ['/'] := by
    rw [ladder, spelled]
    simp
  have letter : (front ++ 'a' :: ['/']).all (· == '/') = false := by simp
  rw [Storage.Path.folder, head, letter, if_neg Bool.false_ne_true,
    Text.trimEnd_append_cons (by decide), spelled]
  rfl

/-- Nothing is found at a ladder in an empty storage. -/
theorem lookup?_ladder (count : Nat) : (Storage.empty []).lookup? (ladder count) = none := by
  rw [Storage.lookup?_eq]
  split
  · next place reached =>
      obtain rfl := Storage.reach_ok reached
      have below : (Storage.empty []).placeOf (ladder count) ≠ [] := by
        rw [Storage.placeOf, names_ladder, List.replicate_succ', List.foldl_append]
        exact List.append_ne_nil_of_right_ne_nil _ (List.cons_ne_nil _ _)
      obtain ⟨name, rest, spelled⟩ := List.exists_cons_of_ne_nil below
      rw [spelled]
      rfl
  · rfl

/-- Not all folders of a high ladder are made at once, and then none of them is. -/
theorem makeFolders_ladder {depth count : Nat} (many : depth ≤ count) :
    (Storage.empty []).makeFolders depth (ladder count) =
      (.empty [], some ⟨.tooDeep, ladder (count - depth)⟩) := by
  induction depth generalizing count with
  | zero => rfl
  | succ depth inductionHypothesis =>
      cases count with
      | zero => exact absurd many (Nat.not_succ_le_zero depth)
      | succ count =>
          have other : ladder count ≠ ladder (count + 1) := by
            rw [ladder]
            simp
          have missing : ladder count ≠ [] ∧ ladder count ≠ ladder (count + 1) ∧
              ((Storage.empty []).lookup? (ladder count)).isNone = true :=
            ⟨ladder_ne_nil count, other, by rw [lookup?_ladder]; rfl⟩
          unfold Storage.makeFolders
          dsimp only
          rw [folder_ladder, if_pos missing, inductionHypothesis (Nat.le_of_succ_le_succ many),
            Nat.add_sub_add_right]
          rfl

/-- A file that is there. -/
def occupied : Storage :=
  (Storage.empty []).put ["a".toList] (.file [0x78])

/-- A text is not saved where more folders are missing than are made at once, nor at a path with a
null character. Neither is a fault of the system, and nothing is reported. Neither is a text with a
surrogate, and it leaves the file empty. -/
theorem ladder_not_reported :
    (Storage.Path.isAbsolute (ladder 1200) = false ∧
        ∀ name ∈ Storage.Path.names (ladder 1200), name ≠ ['.'] ∧ name ≠ ['.', '.']) ∧
      (Attempt.make 992 (.empty []) (ladder 1200) (Text.codes "x".toList)).fault =
        some ⟨.tooDeep, ladder 206⟩ ∧
      (Attempt.make 992 (.empty []) (ladder 1200) (Text.codes "x".toList)).reports = [] ∧
      (Attempt.make 992 (.empty []) "a\x00b".toList (Text.codes "x".toList)).fault =
        some ⟨.nullCharacter, "a\x00b".toList⟩ ∧
      (Attempt.make 992 (.empty []) "a\x00b".toList (Text.codes "x".toList)).reports = [] ∧
      occupied.file? ["a".toList] = some [0x78] ∧
      (Attempt.make 992 occupied "a".toList [.surrogate 0]).fault =
        some ⟨.unencodable, "a".toList⟩ ∧
      (Attempt.make 992 occupied "a".toList [.surrogate 0]).reports = [] ∧
      (Attempt.make 992 occupied "a".toList [.surrogate 0]).after.file? ["a".toList] = some [] ∧
      ∀ cause ∈ [Storage.Cause.tooDeep, .nullCharacter, .unencodable],
        ∀ path, (Storage.Fault.mk cause path).isOfSystem = false := by
  have parents : (Storage.empty []).makeParents 992 (ladder 1200) =
      (.empty [], some ⟨.tooDeep, ladder 206⟩) := by
    rw [Storage.makeParents, folder_ladder, if_neg (ladder_ne_nil 1199)]
    exact makeFolders_ladder (by decide)
  have failed : (Attempt.make 992 (.empty []) (ladder 1200) (Text.codes "x".toList)).fault =
      some ⟨.tooDeep, ladder 206⟩ := by
    rw [Attempt.make, Storage.save, parents]
  refine ⟨⟨?_, ?_⟩, failed, ?_, by decide, by decide, by decide, by decide, by decide, by decide,
    ?_⟩
  · rw [Storage.Path.isAbsolute, (ends_ladder 1200).1]
    rfl
  · rw [names_ladder]
    intro name member
    rw [(List.mem_replicate.mp member).2]
    decide
  · rw [Attempt.reports, failed]
    rfl
  · simp [Storage.Fault.isOfSystem]

end EditorData.Generation

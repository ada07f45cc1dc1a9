import EditorData.Storage.Path
import EditorData.Storage.Trail
import EditorData.Text.CodePoint

/-!
# Files and folders

The storage is a tree of files and folders with a current folder. A place is the list of
names that leads to it from the root, which is always a folder. A path is followed name by
name, from the current folder unless it is absolute. A path with a null character is refused
before any name of it is looked at. What is written or made changes nothing but its own
place: `node?_put_self` and `node?_put_of_ne`.
-/

namespace EditorData

/-- Files and folders, with the folder that relative paths begin at. -/
structure Storage where
  root : Storage.Listing
  current : Storage.Place
deriving DecidableEq, Repr

namespace Storage

/-- What is at a place. -/
def node? (storage : Storage) (place : Place) : Option Node :=
  (Tree.folder storage.root).node? place

/-- Put something at a place. The root stays a folder. -/
def put (storage : Storage) (place : Place) (node : Node) : Storage :=
  { storage with root := ((Tree.folder storage.root).put node place).inside }

/-- Nothing but the current folder. -/
def empty (current : Place) : Storage :=
  Storage.put ⟨.empty, current⟩ current .folder

/-- All that is in the storage, each with its place. -/
def nodes (storage : Storage) : List (Place × Node) :=
  storage.root.nodes

/-- Putting something below the root leaves the root a folder. -/
theorem folder_root_put (storage : Storage) {place : Place} (below : place ≠ [])
    (node : Node) :
    Tree.folder (storage.put place node).root = (Tree.folder storage.root).put node place := by
  cases place with
  | nil => exact absurd rfl below
  | cons name rest => rfl

/-- What has been put at a place is there. -/
theorem node?_put_self (storage : Storage) {place : Place} (below : place ≠ [])
    (node : Node) : (storage.put place node).node? place = some node := by
  rw [node?, folder_root_put storage below]
  exact Tree.node?_put_self node _ place

/-- Something put in a folder, where no folder was, leaves all other places alone. -/
theorem node?_put_of_ne (storage : Storage) {place other : Place} (different : other ≠ place)
    (held : storage.node? place.dropLast = some .folder)
    (free : storage.node? place ≠ some .folder) (node : Node) :
    (storage.put place node).node? other = storage.node? other := by
  have below : place ≠ [] := fun atRoot => free (by rw [atRoot] at held ⊢; exact held)
  rw [node?, folder_root_put storage below]
  exact Tree.node?_put_of_ne node _ different held free

/-- How many bytes a path may have. -/
def pathLimit : Nat := 4095

/-- The trail that stands in the current folder. -/
def currentTrail (storage : Storage) : Trail :=
  storage.current.foldl Trail.enter (.start storage.root)

/-- Where a path leads. -/
def trail (storage : Storage) (path : Text) : Except Cause Trail :=
  if path.contains '\x00' then .error .nullCharacter
  else if path = [] then .error .missing
  else if pathLimit < (Text.utf8 path).length then .error .tooLong
  else
    (if Path.isAbsolute path then Trail.start storage.root else storage.currentTrail).follow
      (Path.names path)

/-- What is at a path, if it leads anywhere. -/
def lookup? (storage : Storage) (path : Text) : Option Node :=
  match storage.trail path with
  | .ok trail => trail.here.map Tree.node
  | .error _ => none

/-- The content of a file. -/
def read (storage : Storage) (path : Text) : Except Fault (List UInt8) :=
  match storage.trail path with
  | .error cause => .error ⟨cause, path⟩
  | .ok trail =>
      match trail.here with
      | none => .error ⟨.missing, path⟩
      | some (.folder _) => .error ⟨.isFolder, path⟩
      | some (.file content) => .ok content

/-- The place of a file to write. A path that can be followed and leads to nothing ends in a
name inside a folder, so a file may be put there. -/
def target (storage : Storage) (path : Text) : Except Fault Place :=
  match storage.trail path with
  | .error cause => .error ⟨cause, path⟩
  | .ok trail =>
      match trail.here with
      | some (.folder _) => .error ⟨.isFolder, path⟩
      | _ => .ok trail.place

/-- Write a file, in the place of the old one if there is one. -/
def write (storage : Storage) (path : Text) (content : List UInt8) : Except Fault Storage :=
  (storage.target path).map fun place => storage.put place (.file content)

/-- Add to the end of the file at a place. -/
def append (storage : Storage) (place : Place) (content : List UInt8) : Storage :=
  match storage.node? place with
  | some (.file old) => storage.put place (.file (old ++ content))
  | _ => storage.put place (.file content)

/-- Make one folder, in a folder that exists. -/
def makeFolder (storage : Storage) (path : Text) : Except Fault Storage :=
  match storage.trail path with
  | .error cause => .error ⟨cause, path⟩
  | .ok trail =>
      match trail.here with
      | some _ => .error ⟨.occupied, path⟩
      | none => .ok (storage.put trail.place .folder)

/-- Make a folder unless it is there. The folders that lead to it are made first, outermost
first, up to the first fault; what has been made before a fault stays. A file in the place of
one of them is a fault only for the next one, and none for a name that stays in place. The
depth bounds how many are made, and nothing is made when there are more. -/
def makeFolders (storage : Storage) : (depth : Nat) -> (path : Text) -> Storage × Option Fault
  | 0, path => (storage, some ⟨.tooDeep, path⟩)
  | depth + 1, path =>
      let outer := Path.folder path
      let missing := outer ≠ [] ∧ outer ≠ path ∧ (storage.lookup? outer).isNone
      let (made, fault) := if missing then storage.makeFolders depth outer else (storage, none)
      match fault.filter (·.cause ≠ .occupied) with
      | some fault => (made, some fault)
      | none =>
          if missing ∧ Path.name path = ['.'] then (made, none)
          else
            match made.makeFolder path with
            | .ok complete => (complete, none)
            | .error fault =>
                (made, if made.lookup? path = some .folder then none else some fault)

/-- Make the folder part of a path and, at once, up to so many folders above it. -/
def makeParents (storage : Storage) (above : Nat) (path : Text) : Storage × Option Fault :=
  if Path.folder path = [] then (storage, none)
  else storage.makeFolders (above + 1) (Path.folder path)

/-- Write a text to a file, making the folders it needs, at once up to so many above the one that it
is in. Folders made before a fault stay. Opening the file empties it, before the text is looked at,
so it is left empty by a text without bytes. -/
def save (storage : Storage) (above : Nat) (path : Text) (content : Codes) :
    Storage × Option Fault :=
  match storage.makeParents above path with
  | (made, some fault) => (made, some fault)
  | (made, none) =>
      let bytes := Text.utf8OfCodes? content
      match made.write path (bytes.getD []) with
      | .error fault => (made, some fault)
      | .ok written => (written, if bytes.isSome then none else some ⟨.unencodable, path⟩)

/-- The files below the current folder, each with the names that lead to it from there. -/
def files (storage : Storage) : List (Place × List UInt8) :=
  storage.currentTrail.inside.nodes.filterMap fun
    | (place, .file content) => some (place, content)
    | (_, .folder) => none

end Storage

end EditorData

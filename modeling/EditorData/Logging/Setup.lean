import EditorData.Dictionary
import EditorData.Limits
import EditorData.Logging.Entry
import EditorData.Storage.Basic
import EditorData.Text.Uppercase
import EditorData.Text.Utf8

/-!
# Where log entries go

A setup has a threshold, the console, and at most one log file. Making a new setup
replaces the old one altogether. A console belongs to the run in which it was set up; what
a later run writes to the console of an earlier one is not seen. Entries are added to the
end of the log file. Before any setup, entries are shown by their messages alone.
-/

namespace EditorData.Logging

/-- The console of a setup. -/
inductive Console where
  | none
  | present
  /-- That of an earlier run. -/
  | former
deriving DecidableEq, Repr

/-- Where entries go, and from which severity on. -/
structure Setup where
  threshold : Nat
  console : Console
  file : Option Storage.Place
deriving DecidableEq, Repr

/-- The severities by name. -/
def namedSeverities : List (Text × Nat) :=
  [("DEBUG".toList, 10), ("INFO".toList, 20), ("WARNING".toList, 30), ("WARN".toList, 30),
    ("ERROR".toList, 40), ("CRITICAL".toList, 50), ("FATAL".toList, 50), ("NOTSET".toList, 0)]

/-- Why a setup is not made, or not made in full. -/
inductive Fault where
  | storage (fault : Storage.Fault)
  /-- The name of the plain layout of log lines, which is no level. -/
  | layoutName
  /-- The name of the table of such layouts, which is no level either. -/
  | layoutTableName
deriving DecidableEq, Repr

/-- The wording of a fault. -/
def Fault.message : Fault -> Text
  | .storage fault => fault.message
  | .layoutName => "Unknown level: '%(levelname)s:%(name)s:%(message)s'".toList
  | .layoutTableName => "the table of layouts is no level".toList

/-- The severity of a level name in either case. A name that means nothing stands for that of
information; two names have another meaning and give no severity. -/
def severityNamed (level : Text) : Except Fault Nat :=
  let name := Text.upper level
  if name = "BASIC_FORMAT".toList then .error .layoutName
  else if name = "_STYLES".toList then .error .layoutTableName
  else .ok ((Dictionary.find? name namedSeverities).getD 20)

namespace Setup

/-- The setup before any has been made. -/
def initial : Setup :=
  ⟨30, .none, none⟩

/-- How many places entries go to. -/
def size (setup : Setup) : Nat :=
  (if setup.console = .none then 0 else 1) + (if setup.file.isSome then 1 else 0)

/-- The setup as a later run finds it. -/
def forLaterRun (setup : Setup) : Setup :=
  { setup with console := if setup.console = .none then .none else .former }

/-- Whether an entry is written. -/
def admits (setup : Setup) (entry : Entry) : Bool :=
  setup.threshold ≤ entry.level.severity

/-- What the console shows of an entry. One that has nowhere to go is shown by its message
alone. -/
def shown (setup : Setup) (entry : Entry) : Text :=
  if setup.size = 0 then entry.message ++ ['\n']
  else if setup.console = .present then entry.line
  else []

/-- Write entries to the log file, and give what the console shows. -/
def write (setup : Setup) (storage : Storage) (entries : List Entry) : Storage × Text :=
  match entries.filter setup.admits with
  | [] => (storage, [])
  | admitted =>
      (match setup.file with
        | some place =>
            storage.append place (admitted.flatMap fun entry => Text.utf8 entry.line)
        | none => storage,
        admitted.flatMap setup.shown)

end Setup

/-- The place of a log file. Names that stay in place or go up are resolved in the text of
its path alone. -/
def logPlace (storage : Storage) (path : Text) : Storage.Place :=
  (Storage.Path.names path).foldl Storage.step
    (if Storage.Path.isAbsolute path then [] else storage.current)

/-- The absolute path of a place. -/
def absolutePath (place : Storage.Place) : Text :=
  '/' :: Text.joined ['/'] place

section Opening

variable [Limits]

/-- Open a log file: make it if it is not there, in a folder that is made as needed. The file is
opened by its absolute path. -/
def openLog (storage : Storage) (path : Text) :
    Storage × Except Storage.Fault Storage.Place :=
  match storage.makeParents Limits.logFolders path with
  | (made, some fault) => (made, .error fault)
  | (made, none) =>
      if path.contains '\x00' then (made, .error ⟨.nullCharacter, path⟩)
      else
        match made.target (absolutePath (logPlace made path)) with
        | .error fault => (made, .error fault)
        | .ok place =>
            match made.node? place with
            | some _ => (made, .ok place)
            | none => (made.put place (.file []), .ok place)

/-- Replace the console and the log file of a setup, and set its threshold. -/
def Setup.replace (setup : Setup) (level : Text) (file : Option Storage.Place) :
    Setup × Option Fault :=
  match severityNamed level with
  | .ok severity => (⟨severity, .present, file⟩, none)
  | .error fault => (⟨setup.threshold, .present, file⟩, some fault)

/-- Make a new setup with the console and, if one is named, a log file. The old setup stays
when the log file cannot be opened, and its threshold when the level gives none. -/
def Setup.configure (setup : Setup) (storage : Storage) (level : Text)
    (logFile : Option Text) : Storage × Setup × Option Fault :=
  match logFile with
  | none | some [] => (storage, setup.replace level none)
  | some path =>
      match openLog storage path with
      | (opened, .error fault) => (opened, setup, some (.storage fault))
      | (opened, .ok place) => (opened, setup.replace level (some place))

end Opening

end EditorData.Logging

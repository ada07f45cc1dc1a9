import EditorData.Text.Basic

/-!
# Log entries

What the program reports while it works: a message with a level. Levels are ordered by a
number, and a threshold on that number decides which entries are written. No entry has a
time, but its line keeps a place for one: a log file may be read again as a document, and
offsets in it count that place.
-/

namespace EditorData.Logging

/-- The severity of a message. -/
inductive Level where
  | debug
  | info
  | warning
  | error
  | critical
deriving DecidableEq, Repr

namespace Level

/-- The number by which levels are compared with a threshold. -/
def severity : Level -> Nat
  | .debug => 10
  | .info => 20
  | .warning => 30
  | .error => 40
  | .critical => 50

/-- The name of the level in a log line. -/
def name : Level -> Text
  | .debug => "DEBUG".toList
  | .info => "INFO".toList
  | .warning => "WARNING".toList
  | .error => "ERROR".toList
  | .critical => "CRITICAL".toList

/-- The level of a name. No entry has the level that is not set, nor one of another name. -/
def ofName? (name : Text) : Option Level :=
  match String.ofList name with
  | "DEBUG" => some .debug
  | "INFO" => some .info
  | "WARNING" | "WARN" => some .warning
  | "ERROR" => some .error
  | "CRITICAL" | "FATAL" => some .critical
  | _ => none

end Level

/-- A message with its level. -/
structure Entry where
  level : Level
  message : Text
deriving DecidableEq, Repr

/-- What stands in a line for the time of its entry. -/
def timePlace : Text :=
  "0000-00-00 00:00:00,000".toList

/-- The line of an entry in a log. -/
def Entry.line (entry : Entry) : Text :=
  timePlace ++ " [".toList ++ entry.level.name ++ "] ".toList ++ entry.message ++ ['\n']

end EditorData.Logging

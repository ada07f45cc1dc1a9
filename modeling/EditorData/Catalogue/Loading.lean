import EditorData.Catalogue.Entry
import EditorData.Logging.Entry

/-!
# Reading the catalogue

The catalogue is a JSON file with the options listed under the key `options`. The four
members of an option are taken in a fixed order, and the first one missing is reported. A
list may also be an empty string or an empty object. Members are kept as JSON values; they
become an entry where all four are strings.
-/

namespace EditorData.Catalogue

/-- An option as the catalogue lists it. -/
structure Listed where
  name : Json
  description : Json
  zigType : Json
  initializer : Json
deriving Repr

/-- The entry of a listed option whose members are all strings. -/
def Listed.entry? : Listed -> Option (Entry CodePoint)
  | ⟨.string name, .string description, .string zigType, .string initializer⟩ =>
      some ⟨name, description, zigType, initializer⟩
  | _ => none

/-- Why a file is no catalogue. -/
inductive LoadFault where
  /-- The text is not read as a JSON text. -/
  | notJson (fault : Json.Fault)
  /-- A value of the wrong kind: where an object or a list should be there is another. -/
  | wrongKind
  /-- A member that is not there. -/
  | missingMember (key : Text)
deriving DecidableEq, Repr

/-- The wording of a fault. -/
def LoadFault.message : LoadFault -> Text
  | .notJson fault => jsonMessage "the catalogue".toList fault
  | .wrongKind => "a value in the catalogue is of the wrong kind".toList
  | .missingMember key => Text.quoted key

/-- A member of an object. -/
def member (key : Text) : Json -> Except LoadFault Json
  | .object members =>
      match Dictionary.find? (Text.codes key) members with
      | some value => .ok value
      | none => .error (.missingMember key)
  | _ => .error .wrongKind

/-- One option of the catalogue. -/
def listed (value : Json) : Except LoadFault Listed := do
  let name <- member "name".toList value
  let description <- member "description".toList value
  let zigType <- member "type".toList value
  let initializer <- member "default".toList value
  return ⟨name, description, zigType, initializer⟩

/-- The options of a list, up to the first fault. -/
def listedAll : List Json -> Except LoadFault (List Listed)
  | [] => .ok []
  | value :: rest =>
      match listed value with
      | .error fault => .error fault
      | .ok option => (listedAll rest).map (option :: ·)

/-- The options of a catalogue. -/
def ofJson (catalogue : Json) : Except LoadFault (List Listed) :=
  match member "options".toList catalogue with
  | .error fault => .error fault
  | .ok (.array items) => listedAll items
  | .ok (.string []) => .ok []
  | .ok (.object []) => .ok []
  | .ok _ => .error .wrongKind

/-- The options of a catalogue's text, read with so much room for arrays and objects. -/
def ofText (room : Nat) (text : Text) : Except LoadFault (List Listed) :=
  match Json.read room text with
  | .ok catalogue => ofJson catalogue
  | .error fault => .error (.notJson fault)

/-- The entries of listed options, if all members are strings. -/
def entries? (options : List Listed) : Option (List (Entry CodePoint)) :=
  options.mapM Listed.entry?

/-- What is reported about a catalogue that has been loaded. -/
def loadReport (count : Nat) (source : Text) : Logging.Entry :=
  ⟨.info, "Loaded ".toList ++ Text.ofNat count ++ " config options from ".toList ++ source⟩

end EditorData.Catalogue

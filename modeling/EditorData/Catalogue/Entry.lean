import EditorData.Json.Reader
import EditorData.Text.Blank
import EditorData.Text.CodePoint
import EditorData.Text.Quoted

/-!
# The option catalogue

An option of the language server has a name, a description, a Zig type and a Zig
initializer. Every file about the options is rendered from one list of them. Only three
Zig types have a counterpart in JSON. A catalogue file may spell surrogates in the texts of an
option, so an option is one of texts or, as it is loaded, one of code points.
-/

namespace EditorData.Catalogue

/-- An option of the language server. -/
structure Entry (Letter : Type := Char) where
  name : List Letter
  description : List Letter
  zigType : List Letter
  initializer : List Letter
deriving DecidableEq, Repr

namespace Entry

/-- An option with its texts as code points. -/
def codes (entry : Entry) : Entry CodePoint :=
  ⟨Text.codes entry.name, Text.codes entry.description, Text.codes entry.zigType,
    Text.codes entry.initializer⟩

/-- The option with these code points as texts, if there is no surrogate among them. -/
def ofCodes? (option : Entry CodePoint) : Option Entry := do
  let name <- Text.ofCodes? option.name
  let description <- Text.ofCodes? option.description
  let zigType <- Text.ofCodes? option.zigType
  let initializer <- Text.ofCodes? option.initializer
  return ⟨name, description, zigType, initializer⟩

/-- An option of code points is one of texts exactly if they are its code points. -/
theorem ofCodes?_eq_some_iff {option : Entry CodePoint} {entry : Entry} :
    ofCodes? option = some entry ↔ option = entry.codes := by
  obtain ⟨name, description, zigType, initializer⟩ := option
  obtain ⟨name', description', zigType', initializer'⟩ := entry
  simp only [ofCodes?, codes, Option.bind_eq_bind, Option.bind_eq_some_iff, Option.pure_def,
    Option.some.injEq, Entry.mk.injEq, Text.ofCodes?_eq_some_iff]
  constructor
  · rintro ⟨_, rfl, _, rfl, _, rfl, _, rfl, rfl, rfl, rfl, rfl⟩
    exact ⟨rfl, rfl, rfl, rfl⟩
  · rintro ⟨rfl, rfl, rfl, rfl⟩
    exact ⟨_, rfl, _, rfl, _, rfl, _, rfl, rfl, rfl, rfl, rfl⟩

end Entry

/-- The options of texts among whose code points there is no surrogate, if that holds of all. -/
def ofCodes? (options : List (Entry CodePoint)) : Option (List Entry) :=
  options.mapM Entry.ofCodes?

/-- Why the options cannot be rendered. -/
inductive Fault where
  /-- A Zig type without counterpart in JSON. -/
  | unsupportedType (zigType : Text)
  /-- An initializer that is not read as a JSON value. -/
  | invalidInitializer (initializer : Text) (fault : Json.Fault)
  /-- Initializers in which too many arrays and objects are in one another to be printed. -/
  | tooDeep
deriving DecidableEq, Repr

/-- The wording of a fault in the JSON text of something. -/
def jsonMessage (subject : Text) : Json.Fault -> Text
  | .malformed => "no JSON value: ".toList ++ subject
  | .tooManyDigits count => Text.digitLimitMessage count
  | .tooDeep => "nested too deeply: ".toList ++ subject

/-- The wording of a fault. -/
def Fault.message : Fault -> Text
  | .unsupportedType zigType => "no JSON type for zig type ".toList ++ Text.quoted zigType
  | .invalidInitializer initializer fault => jsonMessage (Text.quoted initializer) fault
  | .tooDeep => jsonMessage "the configuration properties".toList .tooDeep

/-- The Zig types with a JSON type. -/
def jsonTypes : List (Text × Text) :=
  [("?[]const u8".toList, "string".toList), ("bool".toList, "boolean".toList),
    ("usize".toList, "integer".toList)]

/-- The JSON type of a Zig type. -/
def jsonType (zigType : Text) : Except Fault Text :=
  match Dictionary.find? zigType jsonTypes with
  | some name => .ok name
  | none => .error (.unsupportedType zigType)

end EditorData.Catalogue

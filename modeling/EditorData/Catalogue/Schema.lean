import EditorData.Catalogue.Entry
import EditorData.Json.Printer

/-!
# The JSON schema of the options

The schema has a property for each option name, which describes the last option of that
name at the place of the first.
-/

namespace EditorData.Catalogue

/-- The property of one option. -/
def schemaProperty (entry : Entry) : Except Fault (Text × Json) :=
  (jsonType entry.zigType).map fun type =>
    (entry.name, .record [("description".toList, .text entry.description),
      ("type".toList, .text type), ("default".toList, .text entry.initializer)])

/-- The properties of options in order, up to the first fault. -/
def schemaProperties : List Entry -> Except Fault (List (Text × Json))
  | [] => .ok []
  | entry :: rest =>
      match schemaProperty entry with
      | .error fault => .error fault
      | .ok property => (schemaProperties rest).map (property :: ·)

/-- The schema as a JSON value. -/
def schema (properties : List (Text × Json)) : Json :=
  .record [("$schema".toList, .text "http://json-schema.org/schema".toList),
    ("title".toList, .text "ZLS Config".toList),
    ("description".toList,
      .text "Configuration file for the zig language server (ZLS)".toList),
    ("type".toList, .text "object".toList),
    ("properties".toList, .record (Dictionary.ofList properties))]

/-- The schema file with every option. -/
def renderSchema (entries : List Entry) : Except Fault Text :=
  (schemaProperties entries).map fun properties => Json.print (schema properties) ++ ['\n']

end EditorData.Catalogue

import EditorData.Catalogue.Entry
import EditorData.Json.Depth
import EditorData.Json.Printer
import EditorData.Limits

/-!
# The configuration properties of the VS Code extension

Three properties belong to the extension itself; behind them comes one for each option
name. An option whose name mentions a path is marked as one, and an initializer that is
the JSON value null gives no default. The properties are printed unless they go too deep.
-/

namespace EditorData.Catalogue

/-- The properties of the extension itself. -/
def extensionProperties : List (Text × Json) :=
  [("trace.server".toList, .record [
      ("scope".toList, .text "window".toList),
      ("type".toList, .text "string".toList),
      ("description".toList,
        .text "Traces the communication between VS Code and the language server.".toList),
      ("enum".toList,
        .array [.text "off".toList, .text "message".toList, .text "verbose".toList]),
      ("default".toList, .text "off".toList)]),
    ("check_for_update".toList, .record [
      ("scope".toList, .text "resource".toList),
      ("type".toList, .text "boolean".toList),
      ("description".toList, .text "Whether to automatically check for new updates".toList),
      ("default".toList, .boolean true)]),
    ("path".toList, .record [
      ("scope".toList, .text "resource".toList),
      ("type".toList, .text "string".toList),
      ("description".toList, .text
        "Path to `zls` executable. Example: `C:/zls/zig-cache/bin/zls.exe`.".toList),
      ("format".toList, .text "path".toList)])]

/-- Whether the name of an option mentions a path. -/
def mentionsPath (name : Text) : Bool :=
  (Text.cut? "path".toList name).isSome

/-- The members of a property for the value of its initializer. -/
def propertyMembers (entry : Entry) (type : Text) (initial : Json) : List (Text × Json) :=
  [("scope".toList, .text "resource".toList), ("type".toList, .text type),
    ("description".toList, .text entry.description)] ++
  (if mentionsPath entry.name then [("format".toList, .text "path".toList)] else []) ++
  (match initial with
    | .null => []
    | value => [("default".toList, value)])

variable [Limits]

/-- The property of one option. Its type is looked at first, then its initializer. -/
def editorProperty (entry : Entry) : Except Fault (Text × Json) :=
  match jsonType entry.zigType with
  | .error fault => .error fault
  | .ok type =>
      match Json.read Limits.initializerRoom entry.initializer with
      | .error fault => .error (.invalidInitializer entry.initializer fault)
      | .ok initial =>
          .ok ("zls.".toList ++ entry.name, .record (propertyMembers entry type initial))

/-- The properties of options in order, up to the first fault. -/
def editorProperties : List Entry -> Except Fault (List (Text × Json))
  | [] => .ok []
  | entry :: rest =>
      match editorProperty entry with
      | .error fault => .error fault
      | .ok property => (editorProperties rest).map (property :: ·)

/-- The text of properties, if they do not go too deep. -/
def printProperties (properties : List (Text × Json)) : Except Fault Text :=
  if (Json.record properties).depth Limits.printingDepth ≤ Limits.printingRoom then
    .ok (Json.print (.record properties))
  else .error .tooDeep

/-- The properties with every option. -/
def renderEditorProperties (entries : List Entry) : Except Fault Text :=
  match editorProperties entries with
  | .error fault => .error fault
  | .ok properties =>
      printProperties (Dictionary.ofList (extensionProperties ++ properties))

end EditorData.Catalogue

import EditorData.Json.Value
import EditorData.Number.Shortest

/-!
# Printing JSON

Every item and member stands on a line of its own, indented by four spaces for each array
or object around it; empty arrays and objects are a pair of brackets. Strings are plain
ASCII: other code points are written by their code units in base sixteen.
-/

namespace EditorData.Json

/-- A code unit as an escape. -/
def unitEscape (unit : Nat) : Text :=
  '\\' :: 'u' :: Text.hex 4 unit

/-- One character of a string. -/
def escapedChar (c : Char) : Text :=
  let code := c.toNat
  if c = '"' then ['\\', '"']
  else if c = '\\' then ['\\', '\\']
  else if c = '\n' then ['\\', 'n']
  else if c = '\r' then ['\\', 'r']
  else if c = '\t' then ['\\', 't']
  else if code = 8 then ['\\', 'b']
  else if code = 12 then ['\\', 'f']
  else if 0x20 ≤ code ∧ code ≤ 0x7e then [c]
  else if code < 0x10000 then unitEscape code
  else
    unitEscape (0xd800 + (code - 0x10000) / 0x400) ++
      unitEscape (0xdc00 + (code - 0x10000) % 0x400)

/-- One code point of a string. -/
def escapedPoint : CodePoint -> Text
  | .char c => escapedChar c
  | .surrogate index => unitEscape (0xd800 + index)

/-- A string. -/
def stringText (points : Codes) : Text :=
  '"' :: points.flatMap escapedPoint ++ ['"']

/-- The beginning of a line at a depth of arrays and objects. -/
def newLine (depth : Nat) : Text :=
  '\n' :: List.replicate (4 * depth) ' '

mutual

/-- The text of a value at a depth of arrays and objects. -/
def printAt (depth : Nat) : Json -> Text
  | .null => "null".toList
  | .boolean value => if value then "true".toList else "false".toList
  | .integer value => Text.ofInt value
  | .real value => value.text
  | .string value => stringText value
  | .array [] => "[]".toList
  | .array (item :: rest) =>
      '[' :: newLine (depth + 1) ++ printAt (depth + 1) item ++ printItems (depth + 1) rest ++
        newLine depth ++ [']']
  | .object [] => ['{', '}']
  | .object ((key, value) :: rest) =>
      '{' :: newLine (depth + 1) ++ stringText key ++ ": ".toList ++ printAt (depth + 1) value ++
        printMembers (depth + 1) rest ++ newLine depth ++ ['}']

/-- The items behind the first one, each on its line behind a comma. -/
def printItems (depth : Nat) : List Json -> Text
  | [] => []
  | item :: rest => ',' :: newLine depth ++ printAt depth item ++ printItems depth rest

/-- The members behind the first one, each on its line behind a comma. -/
def printMembers (depth : Nat) : List (Codes × Json) -> Text
  | [] => []
  | (key, value) :: rest =>
      ',' :: newLine depth ++ stringText key ++ ": ".toList ++ printAt depth value ++
        printMembers depth rest

end

/-- The text of a value. -/
def print (value : Json) : Text :=
  printAt 0 value

end EditorData.Json

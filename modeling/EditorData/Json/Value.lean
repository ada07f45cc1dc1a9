import EditorData.Dictionary
import EditorData.Number.Binary64
import EditorData.Text.CodePoint

/-!
# JSON values

A number without fraction and exponent is an integer of any size, every other number a
binary one. An object lists its members in order. A string is made of code points: an escape
may write a surrogate alone.
-/

namespace EditorData

/-- A JSON value. -/
inductive Json where
  | null
  | boolean (value : Bool)
  | integer (value : Int)
  | real (value : Number.Binary64)
  | string (value : Codes)
  | array (items : List Json)
  | object (members : List (Codes × Json))
deriving Repr

namespace Json

/-- A text as a JSON value. -/
def text (value : Text) : Json :=
  .string (Text.codes value)

/-- An object of which the keys are texts. -/
def record (members : List (Text × Json)) : Json :=
  .object (members.map (Prod.map Text.codes id))

/-- The value of a member of an object. -/
def member? (key : Text) : Json -> Option Json
  | .object members => Dictionary.find? (Text.codes key) members
  | _ => none

end Json

end EditorData

import EditorData.Text.Basic

/-!
# Generated sections

A document may hold a generated section between two markers. Replacing the section keeps
both markers and everything outside them.
-/

namespace EditorData.Section

/-- A marker that the document does not have. -/
inductive Fault where
  | missingStart (marker : Text)
  /-- No end marker behind the first start marker. -/
  | missingEnd (marker : Text)
deriving DecidableEq, Repr

/-- The wording of a fault. -/
def Fault.message : Fault -> Text
  | .missingStart marker => "start marker not found: ".toList ++ marker
  | .missingEnd marker => "end marker not found: ".toList ++ marker

/-- Replace what lies between the first start marker and the first end marker behind it. -/
def replace (start stop replacement document : Text) : Except Fault Text :=
  match Text.cut? start document with
  | none => .error (.missingStart start)
  | some (before, rest) =>
      match Text.cut? stop rest with
      | none => .error (.missingEnd stop)
      | some (_, after) => .ok (before ++ start ++ replacement ++ stop ++ after)

end EditorData.Section

import EditorData.Signature.Arguments
import EditorData.Text.Quoted

/-!
# Editor snippets

The snippet of a signature is its text up to the opening parenthesis, one numbered
placeholder for each argument, and a closing parenthesis. A signature without parameter
list has neither snippet nor arguments.
-/

namespace EditorData.Signature

/-- A signature without parameter list. -/
structure Malformed where
  signature : Text
deriving DecidableEq, Repr

/-- The wording of the fault. -/
def Malformed.message (fault : Malformed) : Text :=
  "signature has no parameter list: ".toList ++ Text.quoted fault.signature

/-- A signature taken apart: the text before its parameter list, and its arguments. -/
structure Call where
  callee : Text
  arguments : List Text
deriving DecidableEq, Repr

/-- Take a signature apart at its first opening parenthesis. -/
def parse (signature : Text) : Except Malformed Call :=
  match Text.cut? ['('] signature with
  | some (callee, parameters) => .ok ⟨callee, arguments parameters⟩
  | none => .error ⟨signature⟩

/-- The placeholder of the argument with the given number. -/
def placeholder (number : Nat) (argument : Text) : Text :=
  '$' :: '{' :: Text.ofNat number ++ ':' :: argument ++ ['}']

/-- The placeholders of arguments numbered from the given number on. -/
def placeholders (number : Nat) : List Text -> List Text
  | [] => []
  | argument :: rest => placeholder number argument :: placeholders (number + 1) rest

/-- The snippet of a signature taken apart. -/
def Call.snippet (call : Call) : Text :=
  call.callee ++ '(' :: Text.joined ", ".toList (placeholders 1 call.arguments) ++ [')']

/-- The snippet of a signature. -/
def snippet (signature : Text) : Except Malformed Text :=
  (parse signature).map Call.snippet

end EditorData.Signature

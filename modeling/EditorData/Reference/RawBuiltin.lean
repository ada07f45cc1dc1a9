import EditorData.Text.Basic

/-!
# Builtins as the document has them

An entry of the builtin section before its body is turned into markdown: the title of its
header, the text of its signature, and the fragments of its body in document order.
-/

namespace EditorData.Reference

/-- An entry of the builtin section. -/
structure RawBuiltin where
  name : Text
  signature : Text
  documentation : List Text
deriving DecidableEq, Repr

namespace RawBuiltin

/-- An entry of which only the title has been read. -/
def titled (name : Text) : RawBuiltin :=
  ⟨name, [], []⟩

/-- The entry with one more fragment of its body. -/
def append (builtin : RawBuiltin) (fragment : Text) : RawBuiltin :=
  { builtin with documentation := builtin.documentation ++ [fragment] }

/-- The body of the entry. -/
def html (builtin : RawBuiltin) : Text :=
  builtin.documentation.flatten

end RawBuiltin

end EditorData.Reference

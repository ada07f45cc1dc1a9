import EditorData.Text.Utf8

/-!
# String literals of Zig

A text is written byte by byte: line breaks, tabs, backslashes and quotes with short
escapes, printable ASCII as itself, every other byte by its value.
-/

namespace EditorData.ZigSource

/-- One byte of a string literal. -/
def escapeByte (byte : UInt8) : Text :=
  let code := byte.toNat
  if code = 10 then ['\\', 'n']
  else if code = 13 then ['\\', 'r']
  else if code = 9 then ['\\', 't']
  else if code = 92 then ['\\', '\\']
  else if code = 34 then ['\\', '"']
  else if code = 39 then ['\\', '\'']
  else if 0x20 ≤ code ∧ code ≤ 0x7e then [Char.ofNat code]
  else '\\' :: 'x' :: Text.hex 2 code

/-- The text between the quotes of a string literal. -/
def escape (text : Text) : Text :=
  (Text.utf8 text).flatMap escapeByte

/-- The escaped form of a concatenation is the concatenation of the escaped forms. -/
theorem escape_append (left right : Text) :
    escape (left ++ right) = escape left ++ escape right := by
  simp [escape, Text.utf8]

/-- A string literal. -/
def literal (text : Text) : Text :=
  '"' :: escape text ++ ['"']

end EditorData.ZigSource

import EditorData.Text.Basic
import EditorData.Text.Printable

/-!
# Quoted texts

How messages show a text: between single quotes, or between double quotes when the text
has single quotes and no double ones. Backslashes, the chosen quote and everything that
cannot be printed are written as escapes.
-/

namespace EditorData.Text

/-- The escape of a character by its code point, as short as its size allows. -/
def codeEscape (code : Nat) : Text :=
  if code < 0x100 then '\\' :: 'x' :: hex 2 code
  else if code < 0x10000 then '\\' :: 'u' :: hex 4 code
  else '\\' :: 'U' :: hex 8 code

/-- The quote put around a text. -/
def quoteMark (text : Text) : Char :=
  if text.contains '\'' && !text.contains '"' then '"' else '\''

/-- One character of a quoted text. -/
def quotedChar (mark : Char) (c : Char) : Text :=
  if c = mark || c = '\\' then ['\\', c]
  else if c = '\n' then ['\\', 'n']
  else if c = '\r' then ['\\', 'r']
  else if c = '\t' then ['\\', 't']
  else if isPrintable c then [c]
  else codeEscape c.toNat

/-- The text as messages show it. -/
def quoted (text : Text) : Text :=
  let mark := quoteMark text
  mark :: text.flatMap (quotedChar mark) ++ [mark]

/-- The text with every character beyond ASCII escaped. -/
def asciiOnly (text : Text) : Text :=
  text.flatMap fun c => if c.toNat < 0x80 then [c] else codeEscape c.toNat

end EditorData.Text

import EditorData.Text.Basic

/-!
# Blanks

The sets of characters that the parts of the program take for blank space. They differ:
arguments of a signature are trimmed of everything that any script uses as white space,
markup and option texts only of the six blanks of ASCII.
-/

namespace EditorData.Text

/-- White space of any script, the four information separators included. -/
def isSpace (c : Char) : Bool :=
  let code := c.toNat
  (9 <= code && code <= 13) || (28 <= code && code <= 32) || code == 0x85 || code == 0xa0 ||
    code == 0x1680 || (0x2000 <= code && code <= 0x200a) || code == 0x2028 || code == 0x2029 ||
    code == 0x202f || code == 0x205f || code == 0x3000

/-- The blanks of ASCII: space, tab, line feed, carriage return, vertical tab, form feed. -/
def isBlank (c : Char) : Bool :=
  let code := c.toNat
  code == 32 || (9 <= code && code <= 13)

/-- The text without white space at its ends. -/
def stripped (text : Text) : Text :=
  trim isSpace text

/-- The text without blanks of ASCII at its ends. -/
def trimmed (text : Text) : Text :=
  trim isBlank text

end EditorData.Text

import EditorData.Text.Blank
import EditorData.Text.Digit
import EditorData.Text.Quoted

/-!
# Integers written by people

An integer is digits of any script with at most one sign in front, blank space around,
and single underscores allowed between digits. The information separators are no blank
space here. More digits than a limit are refused as soon as they end, whatever follows.
-/

namespace EditorData.Text

/-- Why a text writes no integer. -/
inductive IntegerFault where
  | malformed
  /-- More digits than an integer may have. -/
  | tooManyDigits (count : Nat)
deriving DecidableEq, Repr

/-- How many digits an integer may have. -/
def digitLimit : Nat := 4300

/-- What is said about an integer with too many digits. -/
def digitLimitMessage (count : Nat) : Text :=
  "Exceeds the limit (".toList ++ ofNat digitLimit ++
    " digits) for integer string conversion: value has ".toList ++ ofNat count ++
    " digits; use sys.set_int_max_str_digits() to increase the limit".toList

/-- The values of the digits behind a digit, and what follows them. Each digit may follow a
single underscore, and no underscore stands elsewhere. -/
def digitsBehind : Text -> Option (List Nat × Text)
  | [] => some ([], [])
  | '_' :: c :: rest =>
      match digitValue? c with
      | some digit => (digitsBehind rest).map (Prod.map (digit :: ·) id)
      | none => none
  | ['_'] => none
  | c :: rest =>
      match digitValue? c with
      | some digit => (digitsBehind rest).map (Prod.map (digit :: ·) id)
      | none => some ([], c :: rest)

/-- The number of a non-empty run of digits, single underscores between digits allowed. -/
def natural (text : Text) : Except IntegerFault Nat :=
  match text with
  | [] => .error .malformed
  | c :: rest =>
      match digitValue? c, digitsBehind rest with
      | some first, some (others, after) =>
          if digitLimit < others.length + 1 then .error (.tooManyDigits (others.length + 1))
          else if after.isEmpty then
            .ok (others.foldl (fun value digit => value * 10 + digit) first)
          else .error .malformed
      | _, _ => .error .malformed

/-- Blank space around an integer: the blanks of ASCII, and white space beyond ASCII. -/
def isIntegerPadding (c : Char) : Bool :=
  isBlank c || (0x80 <= c.toNat && isSpace c)

/-- The integer that a text writes. -/
def integer (text : Text) : Except IntegerFault Int :=
  match trim isIntegerPadding text with
  | '+' :: digits => (natural digits).map Int.ofNat
  | '-' :: digits => (natural digits).map fun value => -Int.ofNat value
  | digits => (natural digits).map Int.ofNat

end EditorData.Text

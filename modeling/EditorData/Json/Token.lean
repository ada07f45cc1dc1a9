import EditorData.Json.Value
import EditorData.Text.Integer

/-!
# Tokens of JSON

A JSON text is punctuation, words, numbers and strings with blank space between them. The
words are the three literals and the names of the three values that no number writes. An
integer with more digits than an integer may have is a token of its own, without a value. In a
string a high surrogate with a low one behind it is one character; a surrogate alone stays what
it is. A lexer splits the first token off; what it leaves is shorter, which bounds the run.
-/

namespace EditorData.Json

/-- A token of a JSON text; a value that is no array and no object is one token. -/
inductive Token where
  | openArray
  | closeArray
  | openObject
  | closeObject
  | comma
  | colon
  | scalar (value : Json)
  /-- The name of a value that no number writes. -/
  | named (value : Number.Binary64)
  | longInteger (digits : Nat)
deriving Repr

/-- The blank space between tokens. -/
def isGap (c : Char) : Bool :=
  c == ' ' || c == '\t' || c == '\n' || c == '\r'

/-- Whether the character is a decimal digit of ASCII. -/
def isDecimal (c : Char) : Bool :=
  '0' ≤ c && c ≤ '9'

/-- The number written by decimal digits of ASCII. -/
def decimalValue (digits : Text) : Nat :=
  digits.foldl (fun value c => value * 10 + (c.toNat - 48)) 0

/-- The code points that code units write: a high surrogate with the low one behind it is one
character, and every other unit is a code point of its own. -/
def ofUnits : List Nat -> Codes
  | high :: low :: rest =>
      if 0xd800 ≤ high ∧ high < 0xdc00 ∧ 0xdc00 ≤ low ∧ low < 0xe000 then
        .char (Char.ofNat (0x10000 + (high - 0xd800) * 0x400 + (low - 0xdc00))) :: ofUnits rest
      else unit high :: ofUnits (low :: rest)
  | [last] => [unit last]
  | [] => []
where
  /-- The code point of a unit that is no half of a pair. -/
  unit (code : Nat) : CodePoint :=
    if surrogate : 0xd800 ≤ code ∧ code < 0xe000 then .surrogate ⟨code - 0xd800, by omega⟩
    else .char (Char.ofNat code)

/-- The character of a short escape. -/
def shortEscape? : Char -> Option Char
  | '"' => some '"'
  | '\\' => some '\\'
  | '/' => some '/'
  | 'b' => some '\x08'
  | 'f' => some '\x0c'
  | 'n' => some '\n'
  | 'r' => some '\r'
  | 't' => some '\t'
  | _ => none

/-- The code unit of four digits in base sixteen. -/
def unit? (a b c d : Char) : Option Nat :=
  match Text.hexValue? a, Text.hexValue? b, Text.hexValue? c, Text.hexValue? d with
  | some a, some b, some c, some d => some (((a * 16 + b) * 16 + c) * 16 + d)
  | _, _, _, _ => none

/-- The code units up to the closing quote of a string, and what follows it. -/
def splitString? : Text -> Option (List Nat × Text)
  | [] => none
  | '"' :: rest => some ([], rest)
  | '\\' :: 'u' :: a :: b :: c :: d :: rest =>
      match unit? a b c d with
      | some unit => (splitString? rest).map (Prod.map (unit :: ·) id)
      | none => none
  | '\\' :: c :: rest =>
      match shortEscape? c with
      | some escaped => (splitString? rest).map (Prod.map (escaped.toNat :: ·) id)
      | none => none
  | c :: rest =>
      if c.toNat < 0x20 ∨ c = '\\' then none
      else (splitString? rest).map (Prod.map (c.toNat :: ·) id)

/-- The digits behind a point, if there are any, and what follows them. -/
def splitFraction (text : Text) : Text × Text :=
  match text with
  | '.' :: c :: rest =>
      if isDecimal c then (c :: rest.takeWhile isDecimal, rest.dropWhile isDecimal) else ([], text)
  | _ => ([], text)

/-- The value of an exponent, if there is one, and what follows it. -/
def splitExponent (text : Text) : Option Int × Text :=
  let digitsOf (sign : Int) (digits : Text) : Option Int × Text :=
    if (digits.takeWhile isDecimal).isEmpty then (none, text)
    else (some (sign * decimalValue (digits.takeWhile isDecimal)), digits.dropWhile isDecimal)
  match text with
  | e :: rest =>
      if e = 'e' ∨ e = 'E' then
        match rest with
        | '+' :: digits => digitsOf 1 digits
        | '-' :: digits => digitsOf (-1) digits
        | digits => digitsOf 1 digits
      else (none, text)
  | [] => (none, text)

/-- The integer part of a number: a zero, or digits that do not begin with one. -/
def splitInteger? (text : Text) : Option (Text × Text) :=
  match text with
  | '0' :: rest => some (['0'], rest)
  | c :: _ =>
      if isDecimal c then some (text.takeWhile isDecimal, text.dropWhile isDecimal) else none
  | [] => none

/-- The number without sign in front of a text, and what follows it. -/
def splitNumber? (negative : Bool) (text : Text) : Option (Token × Text) :=
  (splitInteger? text).map fun (whole, rest) =>
    let (fraction, rest) := splitFraction rest
    let (exponent, rest) := splitExponent rest
    if fraction.isEmpty && exponent.isNone then
      if Text.digitLimit < whole.length then (.longInteger whole.length, rest)
      else
        let magnitude : Int := decimalValue whole
        (.scalar (.integer (if negative then -magnitude else magnitude)), rest)
    else
      (.scalar (.real (.ofDecimal negative (decimalValue (whole ++ fraction))
        (exponent.getD 0 - fraction.length))), rest)

/-- The words and the tokens they are. -/
def words : List (Text × Token) :=
  [("null".toList, .scalar .null), ("true".toList, .scalar (.boolean true)),
    ("false".toList, .scalar (.boolean false)), ("NaN".toList, .named .undefined),
    ("Infinity".toList, .named (.infinite false)), ("-Infinity".toList, .named (.infinite true))]

/-- The word in front of a text, and what follows it. -/
def splitWord? (text : Text) : Option (Token × Text) :=
  words.findSome? fun (word, token) => (Text.after? word text).map fun rest => (token, rest)

/-- The first token of a text that begins with no blank space, and what follows it. -/
def splitToken? (text : Text) : Option (Token × Text) :=
  match text with
  | '[' :: rest => some (.openArray, rest)
  | ']' :: rest => some (.closeArray, rest)
  | '{' :: rest => some (.openObject, rest)
  | '}' :: rest => some (.closeObject, rest)
  | ',' :: rest => some (.comma, rest)
  | ':' :: rest => some (.colon, rest)
  | '"' :: rest =>
      (splitString? rest).map fun (units, after) => (.scalar (.string (ofUnits units)), after)
  | _ =>
      match splitWord? text with
      | some found => some found
      | none =>
          match text with
          | '-' :: rest => splitNumber? true rest
          | _ => splitNumber? false text

end EditorData.Json

import EditorData.Text.Digit
import EditorData.Text.Quoted

/-!
# Layout of a field

A field of a template may say how its value is laid out: cut to a number of characters,
and padded to a width on either side or both. The form is made for numbers as well, so some
of what can be written is refused for a text.
-/

namespace EditorData.Template

/-- Where the padding goes. -/
inductive Alignment where
  | left
  | right
  | center
  /-- Between the sign and the digits of a number. -/
  | numeric
deriving DecidableEq, Repr

/-- The alignment that a character stands for. -/
def Alignment.ofChar? : Char -> Option Alignment
  | '<' => some .left
  | '>' => some .right
  | '^' => some .center
  | '=' => some .numeric
  | _ => none

/-- Why a layout is refused. -/
inductive LayoutFault where
  | tooManyDigits
  | bothSeparators
  | missingPrecision
  /-- A layout of no form, for a value of the kind with a name. -/
  | invalid (spec kind : Text)
  | separator (mark type : Char)
  /-- A type that values of the kind with a name do not have. -/
  | unknownType (type : Char) (kind : Text)
  | space
  | sign
  | negativeZero
  | alternate
  | numericAlignment
  /-- A precision for an integer. -/
  | integerPrecision
  | integerNegativeZero
  | characterSign
  | characterAlternate
  /-- A number that is the code of no character. -/
  | noCharacter (number : Nat)
  | tooPrecise
deriving DecidableEq, Repr

/-- A character between quotes, by its code point unless it is visible ASCII. -/
def shownType (type : Char) : Text :=
  if 32 < type.toNat ∧ type.toNat < 128 then ['\'', type, '\'']
  else "'\\x".toList ++ (Nat.toDigits 16 type.toNat) ++ ['\'']

/-- The wording of a fault. -/
def LayoutFault.message : LayoutFault -> Text
  | .tooManyDigits => "Too many decimal digits in format string".toList
  | .bothSeparators => "Cannot specify both ',' and '_'.".toList
  | .missingPrecision => "Format specifier missing precision".toList
  | .invalid spec kind =>
      "Invalid format specifier '".toList ++ spec ++ "' for object of type '".toList ++ kind ++
        ['\'']
  | .separator mark type =>
      "Cannot specify '".toList ++ mark :: "' with ".toList ++ shownType type ++ ['.']
  | .unknownType type kind =>
      "Unknown format code ".toList ++ shownType type ++ " for object of type '".toList ++ kind ++
        ['\'']
  | .space => "Space not allowed in string format specifier".toList
  | .sign => "Sign not allowed in string format specifier".toList
  | .negativeZero => "Negative zero coercion (z) not allowed in string format specifier".toList
  | .alternate => "Alternate form (#) not allowed in string format specifier".toList
  | .numericAlignment => "'=' alignment not allowed in string format specifier".toList
  | .integerPrecision => "Precision not allowed in integer format specifier".toList
  | .integerNegativeZero =>
      "Negative zero coercion (z) not allowed in integer format specifier".toList
  | .characterSign => "Sign not allowed with integer format specifier 'c'".toList
  | .characterAlternate =>
      "Alternate form (#) not allowed with integer format specifier 'c'".toList
  | .noCharacter number => Text.ofNat number ++ " is the code of no character".toList
  | .tooPrecise => "precision too big".toList

/-- What is written about a layout, as far as it does not depend on the value. -/
structure Specification where
  fill : Option Char
  alignment : Option Alignment
  sign : Option Char
  negativeZero : Bool
  alternate : Bool
  /-- Whether the width begins with a zero that asks for zeros as padding. -/
  zeros : Bool
  width : Nat
  separator : Option Char
  precision : Option Nat
  type : Char
deriving DecidableEq, Repr

/-- The layout of a text. -/
structure Layout where
  fill : Char
  alignment : Alignment
  width : Nat
  precision : Option Nat
deriving DecidableEq, Repr

/-- The largest number a template may hold. -/
def greatestNumber : Nat :=
  Nat.pow 2 63 - 1

/-- The number at the front of a text, none if there are no digits, and what follows it. -/
def splitDigits (text : Text) : Except LayoutFault (Option Nat × Text) :=
  let digits := text.takeWhile Text.isDigit
  let number := digits.foldl (fun value c => value * 10 + (Text.digitValue? c).getD 0) 0
  if digits.isEmpty then .ok (none, text)
  else if greatestNumber < number then .error .tooManyDigits
  else .ok (some number, text.dropWhile Text.isDigit)

/-- Take a character from the front of a text if it is the given one. -/
def takeMark (mark : Char) (text : Text) : Bool × Text :=
  match text with
  | c :: rest => if c = mark then (true, rest) else (false, text)
  | [] => (false, [])

/-- The fill and the alignment at the front of a text, each if it is there. -/
def splitAlignment (text : Text) : Option Char × Option Alignment × Text :=
  match text with
  | fill :: mark :: rest =>
      match Alignment.ofChar? mark with
      | some alignment => (some fill, some alignment, rest)
      | none =>
          match Alignment.ofChar? fill with
          | some alignment => (none, some alignment, mark :: rest)
          | none => (none, none, text)
  | [mark] =>
      match Alignment.ofChar? mark with
      | some alignment => (none, some alignment, [])
      | none => (none, none, text)
  | [] => (none, none, [])

/-- Whether a separator of thousands goes with a type; so it does with the null character. -/
def separatorFits (mark type : Char) : Bool :=
  "\x00defgEG%F".toList.contains type || (mark == '_' && "boxX".toList.contains type)

/-- The sign at the front of a text, if there is one. -/
def splitSign (text : Text) : Option Char × Text :=
  match text with
  | c :: rest => if c = ' ' ∨ c = '+' ∨ c = '-' then (some c, rest) else (none, text)
  | [] => (none, [])

/-- The separator of thousands at the front of a text, if there is one. -/
def splitSeparator (text : Text) : Except LayoutFault (Option Char × Text) :=
  let (comma, rest) := takeMark ',' text
  let (underscore, rest) := takeMark '_' rest
  if comma && underscore then .error .bothSeparators
  else if underscore && rest.head? == some ',' then .error .bothSeparators
  else .ok (if comma then some ',' else if underscore then some '_' else none, rest)

/-- The precision at the front of a text, if there is one. -/
def splitPrecision (text : Text) : Except LayoutFault (Option Nat × Text) :=
  match text with
  | '.' :: rest => do
      let (precision, rest) <- splitDigits rest
      match precision with
      | some number => return (some number, rest)
      | none => throw .missingPrecision
  | _ => .ok (none, text)

/-- Read what is written about a layout for values of the kind with a name, which have a type
unless another is written. -/
def Specification.parse (kind : Text) (usualType : Char) (spec : Text) :
    Except LayoutFault Specification := do
  let (fill, alignment, rest) := splitAlignment spec
  let (sign, rest) := splitSign rest
  let (negativeZero, rest) := takeMark 'z' rest
  let (alternate, rest) := takeMark '#' rest
  let (zeros, rest) := if fill.isNone then takeMark '0' rest else (false, rest)
  let (width, rest) <- splitDigits rest
  let (separator, rest) <- splitSeparator rest
  let (precision, rest) <- splitPrecision rest
  let type <- match rest with
    | [] => pure usualType
    | [type] => pure type
    | _ => throw (.invalid spec kind)
  match separator with
  | some mark => if separatorFits mark type then pure () else throw (.separator mark type)
  | none => pure ()
  return {
    fill, alignment, sign, negativeZero, alternate, zeros, separator, precision, type
    width := width.getD 0 }

/-- The padding of a specification: what is written, zeros, or else spaces. -/
def Specification.padding (specification : Specification) : Char :=
  specification.fill.getD (if specification.zeros then '0' else ' ')

/-- The layout that a specification describes for a text. -/
def Layout.parse (spec : Text) : Except LayoutFault Layout := do
  let specification <- Specification.parse "str".toList 's' spec
  if specification.type ≠ 's' then throw (.unknownType specification.type "str".toList)
  match specification.sign with
  | some ' ' => throw .space
  | some _ => throw .sign
  | none => pure ()
  if specification.negativeZero then throw .negativeZero
  if specification.alternate then throw .alternate
  if specification.alignment = some .numeric then throw .numericAlignment
  return {
    fill := specification.padding
    alignment := specification.alignment.getD .left
    width := specification.width
    precision := specification.precision }

/-- Lay out a text. -/
def Layout.apply (layout : Layout) (text : Text) : Text :=
  let kept := match layout.precision with
    | some count => text.take count
    | none => text
  let padding := layout.width - kept.length
  let before := match layout.alignment with
    | .left | .numeric => 0
    | .right => padding
    | .center => padding / 2
  List.replicate before layout.fill ++ kept ++ List.replicate (padding - before) layout.fill

end EditorData.Template

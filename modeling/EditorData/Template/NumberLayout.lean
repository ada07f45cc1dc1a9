import EditorData.Template.Layout

/-!
# Layout of a number

A number that is no fraction is laid out by its digits, in one of four bases, as the
character whose code it is, or in one of the forms that fractions have. Digits may be
grouped, and zeros in front of them are grouped along.
-/

namespace EditorData.Template.NumberLayout

/-- The parts of a number as it is written: what stands in front of its digits, the digits that
may be grouped, and what follows them. -/
structure Parts where
  lead : Text
  digits : Text
  tail : Text
deriving DecidableEq, Repr

/-- The digits of a number in a base. -/
def digitsIn (base number : Nat) : Text :=
  Nat.toDigits base number

/-- Digits from the last one on, in groups of a size with a mark between them. Zeros are added up
to a width in which the marks count. Every group takes at least one digit, or one from the
width, so their sum is fuel enough. -/
def groupedFrom (size : Nat) (mark : Char) : (fuel : Nat) -> (width : Nat) -> Text -> Text
  | 0, _, digits => digits
  | fuel + 1, width, digits =>
      let length := min size (max (max digits.length width) 1)
      let group := digits.take length ++ List.replicate (length - digits.length) '0'
      if digits.length ≤ length ∧ width ≤ length then group
      else group ++ mark :: groupedFrom size mark fuel (width - length - 1) (digits.drop length)

/-- Digits with zeros in front up to a width, in groups if there is a mark for them. -/
def grouped (separator : Option Char) (size width : Nat) (digits : Text) : Text :=
  match separator with
  | none => List.replicate (width - digits.length) '0' ++ digits
  | some mark =>
      (groupedFrom size mark (digits.length + width + 1) width digits.reverse).reverse

/-- What follows the point of a fraction. The point stands alone only when asked for. -/
def fraction (alternate : Bool) (digits : Text) : Text :=
  if digits.isEmpty ∧ ¬ alternate then [] else '.' :: digits

/-- The power of ten behind a fraction. -/
def power (mark : Char) (exponent : Nat) : Text :=
  mark :: '+' :: (if exponent < 10 then ['0'] else []) ++ Text.ofNat exponent

/-- A number rounded to a count of digits, and the power of ten of the first one. A number in the
middle goes to the even neighbour. -/
def rounded (count number : Nat) : Nat × Nat :=
  let length := (Text.ofNat number).length
  if length ≤ count then (number * Nat.pow 10 (count - length), length - 1)
  else
    let unit := Nat.pow 10 (length - count)
    let below := number / unit
    let remainder := number % unit
    let above := 2 * remainder > unit ∨ (2 * remainder = unit ∧ below % 2 = 1)
    let nearest := if above then below + 1 else below
    if nearest = Nat.pow 10 count then (Nat.pow 10 (count - 1), length) else (nearest, length - 1)

/-- A number with a count of digits behind the point. -/
def fixed (alternate : Bool) (precision number : Nat) : Parts :=
  ⟨[], Text.ofNat number, fraction alternate (List.replicate precision '0')⟩

/-- A number as a fraction and a power of ten. -/
def scientific (alternate : Bool) (mark : Char) (precision number : Nat) : Parts :=
  let (digits, exponent) := rounded (precision + 1) number
  let text := Text.ofNat digits
  let behind := if number = 0 then List.replicate precision '0' else text.drop 1
  ⟨[], text.take 1, fraction alternate behind ++ power mark exponent⟩

/-- A number in the shorter of the two forms, with so many digits that count. Zeros at the end of
a fraction are left out unless asked for. -/
def general (alternate : Bool) (mark : Char) (precision number : Nat) : Parts :=
  let count := max precision 1
  let (digits, exponent) := rounded count number
  if exponent < count then
    ⟨[], Text.ofNat number,
      if alternate then '.' :: List.replicate (count - 1 - exponent) '0' else []⟩
  else
    let text := Text.ofNat digits
    let behind := text.drop 1
    let kept := if alternate then behind else Text.trimEnd (· == '0') behind
    ⟨[], text.take 1, fraction alternate kept ++ power mark exponent⟩

/-- A number in a base, with the mark of the base when asked for. -/
def based (alternate : Bool) (type : Char) (number : Nat) : Parts :=
  let lead := if alternate then ['0', type] else []
  match type with
  | 'b' => ⟨lead, digitsIn 2 number, []⟩
  | 'o' => ⟨lead, digitsIn 8 number, []⟩
  | 'x' => ⟨lead, digitsIn 16 number, []⟩
  | 'X' => ⟨lead, (digitsIn 16 number).map Char.toUpper, []⟩
  | _ => ⟨[], Text.ofNat number, []⟩

/-- The greatest precision of a fraction. -/
def greatestPrecision : Nat :=
  Nat.pow 2 31 - 1

/-- The parts of a number that is written as a fraction, if the type is one of those. -/
def fractional? (specification : Specification) (number : Nat) : Option Parts :=
  let precision := specification.precision.getD 6
  let alternate := specification.alternate
  match specification.type with
  | 'e' | 'E' => some (scientific alternate specification.type precision number)
  | 'f' | 'F' => some (fixed alternate precision number)
  | 'g' => some (general alternate 'e' precision number)
  | 'G' => some (general alternate 'E' precision number)
  | '%' =>
      let parts := fixed alternate precision (100 * number)
      some { parts with tail := parts.tail ++ ['%'] }
  | _ => none

/-- The parts of the character whose code is a number. -/
def character (specification : Specification) (number : Nat) : Except LayoutFault Parts := do
  if specification.sign.isSome then throw .characterSign
  if specification.alternate then throw .characterAlternate
  if 0x10ffff < number then throw (.noCharacter number)
  return ⟨[], [], [Char.ofNat number]⟩

/-- The parts of a number. -/
def parts (kind : Text) (specification : Specification) (number : Nat) :
    Except LayoutFault Parts :=
  if "bcdnoxX".toList.contains specification.type then
    if specification.precision.isSome then .error .integerPrecision
    else if specification.negativeZero then .error .integerNegativeZero
    else if specification.type = 'c' then character specification number
    else .ok (based specification.alternate specification.type number)
  else
    match fractional? specification number with
    | none => .error (.unknownType specification.type kind)
    | some fractional =>
        if greatestPrecision < specification.precision.getD 0 then .error .tooPrecise
        else .ok fractional

/-- The sign of a number that is not negative. -/
def sign (specification : Specification) : Text :=
  match specification.sign with
  | some '+' => ['+']
  | some ' ' => [' ']
  | _ => []

/-- Where the padding of a number goes. -/
def alignment (specification : Specification) : Alignment :=
  specification.alignment.getD (if specification.zeros then .numeric else .right)

/-- How many digits make a group. -/
def groupSize (specification : Specification) : Nat :=
  if "boxX".toList.contains specification.type then 4 else 3

/-- Put the parts of a number together. -/
def assemble (specification : Specification) (parts : Parts) : Text :=
  let place := alignment specification
  let lead := sign specification ++ parts.lead
  let width := specification.width - lead.length - parts.tail.length
  let digits :=
    if parts.digits.isEmpty then []
    else grouped specification.separator (groupSize specification)
      (if specification.padding = '0' ∧ place = .numeric then width else 0) parts.digits
  let padding := width - digits.length
  let fill (count : Nat) : Text := List.replicate count specification.padding
  match place with
  | .left => lead ++ digits ++ parts.tail ++ fill padding
  | .right => fill padding ++ lead ++ digits ++ parts.tail
  | .center =>
      fill (padding / 2) ++ lead ++ digits ++ parts.tail ++ fill (padding - padding / 2)
  | .numeric => lead ++ fill padding ++ digits ++ parts.tail

end EditorData.Template.NumberLayout

import EditorData.Number.Binary64
import EditorData.Text.Basic

/-!
# Shortest decimals

A finite binary number is written with the fewest decimal digits that are nearer to it
than to any other number of the format. For each count of digits there are two candidates,
the neighbours of the number on that decimal grid; the first count with a candidate inside
the interval that rounds to the number wins, and of two candidates the nearer one.
-/

namespace EditorData.Number

/-- A positive decimal number: `digits * 10 ^ scale`. -/
structure Decimal where
  digits : Nat
  scale : Int
deriving DecidableEq, Repr

/-- A positive number with the interval that rounds to it, all in the same unit: the
number and the interval's ends are `value / unit`, `low / unit` and `high / unit`. -/
structure Rounding where
  value : Nat
  low : Nat
  high : Nat
  unit : Nat
  /-- Whether the ends round to the number. -/
  closed : Bool
deriving DecidableEq, Repr

/-- The interval of a positive finite number. Below a power of two the format is twice as
dense as above it. -/
def Rounding.of (mantissa : Nat) (exponent : Int) : Rounding :=
  let up := Nat.pow 2 exponent.toNat
  let unit := 4 * Nat.pow 2 (-exponent).toNat
  let gap := if mantissa = Nat.pow 2 52 ∧ leastExponent < exponent then 1 else 2
  ⟨4 * mantissa * up, (4 * mantissa - gap) * up, (4 * mantissa + 2) * up, unit,
    mantissa % 2 = 0⟩

/-- Whether the fraction `numerator / denominator` rounds to the number. -/
def Rounding.admits (rounding : Rounding) (numerator denominator : Nat) : Bool :=
  let point := numerator * rounding.unit
  let low := rounding.low * denominator
  let high := rounding.high * denominator
  if rounding.closed then low ≤ point && point ≤ high else low < point && point < high

/-- The place of the leading decimal digit: the largest power of ten that is not above the
number. -/
def Rounding.leadingPlace (rounding : Rounding) : Int :=
  let whole := rounding.value / rounding.unit
  if whole = 0 then
    let inverse := (rounding.unit + rounding.value - 1) / rounding.value
    Int.negOfNat (Nat.toDigits 10 (inverse - 1)).length
  else (Nat.toDigits 10 whole).length - 1

/-- The best decimal of the given scale that rounds to the number, if there is one. -/
def Rounding.candidate? (rounding : Rounding) (scale : Int) : Option Decimal :=
  let up := Nat.pow 10 scale.toNat
  let down := Nat.pow 10 (-scale).toNat
  let below := rounding.value * down / (rounding.unit * up)
  let rest := rounding.value * down % (rounding.unit * up)
  let above := below + 1
  let belowFits := rounding.admits (below * up) down
  let aboveFits := rounding.admits (above * up) down
  let preferBelow := 2 * rest < rounding.unit * up ||
    (2 * rest = rounding.unit * up && below % 2 = 0)
  if belowFits && (preferBelow || !aboveFits) then some ⟨below, scale⟩
  else if aboveFits then some ⟨above, scale⟩
  else none

/-- The first candidate among the scales from a leading place downwards. -/
def Rounding.search (rounding : Rounding) : (fuel : Nat) -> (scale : Int) -> Decimal
  | 0, scale => (rounding.candidate? scale).getD ⟨rounding.value, scale⟩
  | fuel + 1, scale =>
      match rounding.candidate? scale with
      | some decimal => decimal
      | none => rounding.search fuel (scale - 1)

/-- The shortest decimal of a positive finite number; seventeen digits always suffice. -/
def shortest (mantissa : Nat) (exponent : Int) : Decimal :=
  let rounding := Rounding.of mantissa exponent
  rounding.search 16 rounding.leadingPlace

/-- The digits without trailing zeros, for a leading digit at the given place. -/
def significant (digits : Nat) : Text :=
  Text.trimEnd (· == '0') (Text.ofNat digits)

/-- How a decimal is written: positionally while the leading digit stands at the places
from -4 to 15, with a point and at least one digit behind it; otherwise with one digit in
front of the point and an exponent of at least two digits with its sign. -/
def Decimal.text (decimal : Decimal) : Text :=
  let digits := significant decimal.digits
  let place : Int := (Text.ofNat decimal.digits).length + decimal.scale - 1
  if place < -4 ∨ 16 ≤ place then
    let exponent := Text.ofNat place.natAbs
    let sign := if place < 0 then '-' else '+'
    let padded := if exponent.length < 2 then '0' :: exponent else exponent
    match digits with
    | [] => []
    | [digit] => digit :: 'e' :: sign :: padded
    | digit :: rest => digit :: '.' :: rest ++ 'e' :: sign :: padded
  else if place < 0 then
    "0.".toList ++ List.replicate (place.natAbs - 1) '0' ++ digits
  else
    let front := place.toNat + 1
    let whole := digits.take front ++ List.replicate (front - digits.length) '0'
    let fraction := digits.drop front
    whole ++ '.' :: (if fraction.isEmpty then ['0'] else fraction)

/-- The text of a number of the 64-bit format. -/
def Binary64.text : Binary64 -> Text
  | .undefined => "NaN".toList
  | .infinite negative => (if negative then ['-'] else []) ++ "Infinity".toList
  | .finite negative mantissa exponent =>
      (if negative then ['-'] else []) ++
        if mantissa = 0 then "0.0".toList else (shortest mantissa exponent).text

end EditorData.Number

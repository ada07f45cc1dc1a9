/-!
# Binary floating point

Numbers with 53 significant bits and the exponents of the 64-bit format, as exact
integers: a finite number is `mantissa * 2 ^ exponent`. A fraction is rounded to the
nearest such number, to the even mantissa where two are equally near, and to infinity
beyond the largest one.
-/

namespace EditorData.Number

/-- A value of the 64-bit binary format. -/
inductive Binary64 where
  | finite (negative : Bool) (mantissa : Nat) (exponent : Int)
  | infinite (negative : Bool)
  | undefined
deriving DecidableEq, Repr

/-- The quotient rounded to the nearest integer, halves to the even one. -/
def roundedQuotient (numerator denominator : Nat) : Nat :=
  let quotient := numerator / denominator
  let rest := numerator % denominator
  if 2 * rest < denominator then quotient
  else if denominator < 2 * rest then quotient + 1
  else quotient + quotient % 2

/-- The smallest exponent of a finite number. -/
def leastExponent : Int := -1074

/-- The largest exponent of a finite number. -/
def greatestExponent : Int := 971

/-- The factor `2 ^ exponent`: its numerator and denominator. -/
def powerOfTwo (exponent : Int) : Nat × Nat :=
  (Nat.pow 2 exponent.toNat, Nat.pow 2 (-exponent).toNat)

/-- The exponent that gives the quotient a mantissa of 53 bits, or the least one. -/
def exponentFor (numerator denominator : Nat) : Int :=
  let guess : Int := (Nat.log2 numerator : Int) - Nat.log2 denominator - 52
  let (up, down) := powerOfTwo guess
  let exponent :=
    if numerator * down < denominator * up * Nat.pow 2 52 then guess - 1 else guess
  max exponent leastExponent

/-- A finite number, or infinity beyond the largest exponent. -/
def Binary64.bounded (negative : Bool) (mantissa : Nat) (exponent : Int) : Binary64 :=
  if greatestExponent < exponent then .infinite negative else .finite negative mantissa exponent

/-- The number nearest to a positive fraction, with a sign. A mantissa that is rounded up to 54
bits loses the last one. -/
def Binary64.nearest (negative : Bool) (numerator denominator : Nat) : Binary64 :=
  let exponent := exponentFor numerator denominator
  let power := powerOfTwo exponent
  let mantissa := roundedQuotient (numerator * power.2) (denominator * power.1)
  if mantissa = Nat.pow 2 53 then .bounded negative (Nat.pow 2 52) (exponent + 1)
  else .bounded negative mantissa exponent

/-- The number nearest to `digits * 10 ^ scale`, with a sign. Scales far beyond the range
of the format are decided without computing the power. -/
def Binary64.ofDecimal (negative : Bool) (digits : Nat) (scale : Int) : Binary64 :=
  if digits = 0 then .finite negative 0 leastExponent
  else
    let magnitude : Int := (Nat.toDigits 10 digits).length + scale
    if 400 < magnitude then .infinite negative
    else if magnitude < -400 then .finite negative 0 leastExponent
    else .nearest negative (digits * Nat.pow 10 scale.toNat) (Nat.pow 10 (-scale).toNat)

/-- The number nearest to a natural number, which is a natural number too; none beyond the
largest number of the format. -/
def nearestWhole? (number : Nat) : Option Nat :=
  match Binary64.ofDecimal false number 0 with
  | .finite _ mantissa exponent =>
      let (up, down) := powerOfTwo exponent
      some (mantissa * up / down)
  | _ => none

end EditorData.Number

/-!
# Binary64 numbers

A binary64 number is a sign and a magnitude `significand * 2 ^ exponent` with a
significand below `2 ^ 53` and an exponent from `-1074` to `971`.  Products and
quotients are worked out exactly and then rounded to the nearest magnitude, an
exact half going to the even significand.  Magnitudes beyond the largest one do
not exist here: an operation that would reach them has no result.
-/

namespace ModelLineage

/-- The nearest natural number to a quotient; an exact half goes to the even neighbour. -/
def roundedQuotient (numerator denominator : Nat) : Nat :=
  let below := numerator / denominator
  let twice := 2 * (numerator % denominator)
  if twice < denominator then below
  else if denominator < twice then below + 1
  else if below % 2 = 0 then below
  else below + 1

/-- The size of a finite binary64 number. -/
structure Magnitude where
  significand : Nat
  exponent : Int
  deriving DecidableEq, Inhabited

namespace Magnitude

/-- The smallest exponent. -/
def leastExponent : Int := -1074

/-- The largest exponent. -/
def greatestExponent : Int := 971

/-- Zero. -/
def zero : Magnitude := ⟨0, leastExponent⟩

/-- `numerator / denominator / 2 ^ exponent` as a quotient of natural numbers. -/
def unscaled (numerator denominator : Nat) (exponent : Int) : Nat × Nat :=
  (numerator * Nat.pow 2 (-exponent).toNat, denominator * Nat.pow 2 exponent.toNat)

/--
The exponent at which a positive quotient is rounded: the one that leaves a
significand of 53 bits, but not below the smallest.
-/
def exponentFor (numerator denominator : Nat) : Int :=
  let estimate : Int := (numerator.log2 : Int) - denominator.log2
  let exponent := max (estimate - 53) leastExponent
  let (scaledNumerator, scaledDenominator) := unscaled numerator denominator exponent
  if scaledNumerator / scaledDenominator < Nat.pow 2 53 then exponent else exponent + 1

/-- The magnitude nearest to a quotient, if it is not too large. -/
def ofQuotient? (numerator denominator : Nat) : Option Magnitude :=
  if numerator = 0 then some zero
  else
    let exponent := exponentFor numerator denominator
    let (scaledNumerator, scaledDenominator) := unscaled numerator denominator exponent
    let significand := roundedQuotient scaledNumerator scaledDenominator
    let rounded : Magnitude :=
      if significand < Nat.pow 2 53 then ⟨significand, exponent⟩
      else ⟨Nat.pow 2 52, exponent + 1⟩
    if rounded.exponent ≤ greatestExponent then some rounded else none

/-- The magnitude nearest to a natural number, if it is not too large. -/
def ofNat? (value : Nat) : Option Magnitude :=
  ofQuotient? value 1

/-- The exact value as a quotient of natural numbers. -/
def quotient (magnitude : Magnitude) : Nat × Nat :=
  (magnitude.significand * Nat.pow 2 magnitude.exponent.toNat,
    Nat.pow 2 (-magnitude.exponent).toNat)

/-- The product, rounded. -/
def times? (left right : Magnitude) : Option Magnitude :=
  ofQuotient? (left.quotient.1 * right.quotient.1) (left.quotient.2 * right.quotient.2)

/-- The quotient, rounded; the divisor is not zero. -/
def over? (left right : Magnitude) : Option Magnitude :=
  ofQuotient? (left.quotient.1 * right.quotient.2) (left.quotient.2 * right.quotient.1)

/-- The magnitude nearest to a power of ten, if it is not too large. -/
def tenTo? (power : Nat) : Option Magnitude :=
  ofNat? (Nat.pow 10 power)

/-- The largest power of ten that is used as one factor. -/
def greatestPower : Nat := 308

/-- Divide a number of times by the largest power of ten; nothing changes once zero is reached. -/
def overGreatest? (magnitude : Magnitude) : Nat → Option Magnitude
  | 0 => some magnitude
  | times + 1 =>
    if magnitude.significand = 0 then some magnitude
    else
      match (tenTo? greatestPower).bind magnitude.over? with
      | none => none
      | some smaller => smaller.overGreatest? times

/-- Divide by a power of ten, by the largest one as often as it leaves something to divide by. -/
def overTenTo? (magnitude : Magnitude) (power : Nat) : Option Magnitude :=
  let times := (power - 1) / greatestPower
  match magnitude.overGreatest? times with
  | none => none
  | some smaller =>
    if smaller.significand = 0 then some smaller
    else (tenTo? (power - times * greatestPower)).bind smaller.over?

/--
Scale by a power of ten.  The power is rounded before it is applied, so the
result may differ in its last bits from the decimal number that was meant.
-/
def scaledByTenTo? (magnitude : Magnitude) : Int → Option Magnitude
  | .ofNat power =>
    if power ≤ greatestPower then (tenTo? power).bind magnitude.times?
    else if magnitude.significand = 0 then some magnitude
    else none
  | .negSucc power => magnitude.overTenTo? (power + 1)

end Magnitude

/-- A finite binary64 number. -/
structure Binary64 where
  negative : Bool
  magnitude : Magnitude
  deriving DecidableEq, Inhabited

end ModelLineage

import ModelLineage.Number.Binary64

/-!
# The shortest decimal text of a binary64 number

The reals that round to a magnitude form an interval that reaches half way to
its neighbours, its ends included when the significand is even.  The shortest
text has the fewest digits for which some decimal lies in that interval, and
among those the decimal nearest to the magnitude.
-/

namespace ModelLineage

/-- A decimal number `digits * 10 ^ exponent`. -/
structure Decimal where
  digits : Nat
  exponent : Int
  deriving DecidableEq, Inhabited

namespace Magnitude

/-- The distance to the lower end of the interval, in quarters of the last place. -/
def gapBelow (magnitude : Magnitude) : Nat :=
  if magnitude.significand = Nat.pow 2 52 ∧ leastExponent < magnitude.exponent then 1 else 2

/-- `quarters * 2 ^ (exponent - 2) / 10 ^ power` as a quotient of natural numbers. -/
def onGrid (magnitude : Magnitude) (quarters : Nat) (power : Int) : Nat × Nat :=
  let exponent := magnitude.exponent - 2
  (quarters * Nat.pow 2 exponent.toNat * Nat.pow 10 (-power).toNat,
    Nat.pow 2 (-exponent).toNat * Nat.pow 10 power.toNat)

/-- Whether `digits * 10 ^ power` rounds to the magnitude. -/
def isNearestTo (magnitude : Magnitude) (power : Int) (digits : Nat) : Bool :=
  let low := magnitude.onGrid (4 * magnitude.significand - magnitude.gapBelow) power
  let high := magnitude.onGrid (4 * magnitude.significand + 2) power
  if magnitude.significand % 2 = 0 then
    low.1 ≤ digits * low.2 && digits * high.2 ≤ high.1
  else
    low.1 < digits * low.2 && digits * high.2 < high.1

/-- The power of ten of the leading digit of a positive magnitude. -/
def leadingPower (magnitude : Magnitude) : Int :=
  let scaled := magnitude.onGrid (4 * magnitude.significand) (-400)
  ((Nat.toDigits 10 (scaled.1 / scaled.2)).length : Int) - 401

/-- A decimal on the grid of a power of ten that rounds to the magnitude, the nearest if two do. -/
def candidate? (magnitude : Magnitude) (power : Int) : Option Decimal :=
  let exact := magnitude.onGrid (4 * magnitude.significand) power
  let below := exact.1 / exact.2
  let nearest := roundedQuotient exact.1 exact.2
  let other := if nearest = below then below + 1 else below
  if magnitude.isNearestTo power nearest then some ⟨nearest, power⟩
  else if magnitude.isNearestTo power other then some ⟨other, power⟩
  else none

/-- A magnitude as a decimal without any rounding. -/
def exactDecimal (magnitude : Magnitude) : Decimal :=
  if 0 ≤ magnitude.exponent then
    ⟨magnitude.significand * Nat.pow 2 magnitude.exponent.toNat, 0⟩
  else
    ⟨magnitude.significand * Nat.pow 5 (-magnitude.exponent).toNat, magnitude.exponent⟩

/--
The shortest decimal that rounds to a positive magnitude: of one digit if that
is enough, else of two, and so on up to seventeen.
-/
def shortest (magnitude : Magnitude) : Decimal :=
  let leading := magnitude.leadingPower
  ((List.range 17).findSome? fun (fewer : Nat) =>
      magnitude.candidate? (leading - fewer)).getD magnitude.exactDecimal

end Magnitude

/-- The powers of ten that the first digit of a number in positional notation may stand for. -/
structure DecimalNotation where
  leastPositional : Int
  greatestPositional : Int

namespace DecimalNotation

/-- Drop the zeros at the end. -/
def stripped (digits : List Char) : List Char :=
  (digits.reverse.dropWhile (· = '0')).reverse

/-- Digits with a point after the first `whole` of them, at least one digit on either side. -/
def pointed (whole : Nat) (digits : List Char) : List Char :=
  let digits := digits ++ List.replicate (whole + 1 - digits.length) '0'
  digits.take whole ++ '.' :: digits.drop whole

/-- Lay out the digits of a positive decimal whose first digit stands for a power of ten. -/
def layout (style : DecimalNotation) (digits : List Char) (leading : Int) : List Char :=
  if style.leastPositional ≤ leading ∧ leading ≤ style.greatestPositional then
    if leading < 0 then
      pointed 1 (List.replicate (-leading).toNat '0' ++ digits)
    else
      pointed (leading.toNat + 1) digits
  else
    let sign := if leading < 0 then '-' else '+'
    let exponent := Nat.toDigits 10 leading.natAbs
    let body :=
      match digits with
      | [digit] => [digit]
      | _ => pointed 1 digits
    body ++ 'e' :: sign :: exponent

end DecimalNotation

namespace Binary64

/-- Positional from `10 ^ -5` to below `10 ^ 16`, and beyond that with a signed exponent. -/
def decimalNotation : DecimalNotation := ⟨-5, 15⟩

/-- The shortest text that reads back as the number. -/
def text (number : Binary64) : String :=
  let body :=
    if number.magnitude.significand = 0 then ['0', '.', '0']
    else
      let decimal := number.magnitude.shortest
      let all := Nat.toDigits 10 decimal.digits
      decimalNotation.layout (DecimalNotation.stripped all) (decimal.exponent + all.length - 1)
  String.ofList (if number.negative then '-' :: body else body)

end Binary64

end ModelLineage

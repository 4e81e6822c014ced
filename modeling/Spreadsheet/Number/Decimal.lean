import Spreadsheet.Number.Binary64
import Spreadsheet.Number.Digits

/-!
Decimal numbers and the shortest decimal of a double.

A `Decimal` is a whole number of units of a power of ten.  `Decimal.nearestCode` rounds it to a
double.  `shortest` goes the other way: of the decimals that round to a given double it takes one
with the fewest digits, and of those the nearest to the double, a tie going to the even last digit.
-/

namespace Spreadsheet.Number

/-- The number `digits * 10 ^ exponent`. -/
structure Decimal where
  digits : Nat
  exponent : Int
deriving DecidableEq, Repr

namespace Decimal

/-- The value as a fraction: above the line. -/
def numerator (d : Decimal) : Nat :=
  d.digits * Nat.pow 10 d.exponent.toNat

/-- The value as a fraction: below the line. -/
def denominator (d : Decimal) : Nat :=
  Nat.pow 10 (-d.exponent).toNat

/-- The position of the decimal point after the first digit's place: the value is below
`10 ^ point` and, unless it is zero, at least a tenth of that. -/
def point (d : Decimal) : Int :=
  digitCount d.digits + d.exponent

/-- The code of the nearest double.  Beyond `10 ^ 400` everything is infinite and below
`10 ^ -400` everything is zero, so the powers of ten stay small. -/
def nearestCode (d : Decimal) : Nat :=
  if d.digits = 0 ∨ d.point < -400 then 0
  else if 400 < d.point then infinityCode
  else Number.nearestCode d.numerator d.denominator

end Decimal

/-- The position of the decimal point of a positive finite double. -/
def pointOfCode (code : Nat) : Int :=
  (digitCount (units code * Nat.pow 10 324 / Nat.pow 2 unitBits) : Int) - 324

/-- The decimal with the given exponent that rounds to the double and is nearest to it, if there is
one.  Only the two neighbours of the double's value on that grid are candidates. -/
def nearestOnGrid (code : Nat) (exponent : Int) : Option Decimal :=
  let num := units code * Nat.pow 10 (-exponent).toNat
  let den := Nat.pow 2 unitBits * Nat.pow 10 exponent.toNat
  let lower := num / den
  let below : Decimal := ⟨lower, exponent⟩
  let above : Decimal := ⟨lower + 1, exponent⟩
  match decide (below.nearestCode = code), decide (above.nearestCode = code) with
  | false, false => none
  | true, false => some below
  | false, true => some above
  | true, true =>
    if 2 * num < (2 * lower + 1) * den then some below
    else if (2 * lower + 1) * den < 2 * num then some above
    else if lower % 2 = 0 then some below
    else some above

/-- The exact value of a double as a decimal. -/
def exactDecimal (code : Nat) : Decimal :=
  ⟨units code * Nat.pow 5 unitBits, -unitBits⟩

/-- The shortest decimal of a positive finite double: the first grid, from one digit to seventeen,
that holds a decimal which rounds to it. -/
def shortest (code : Nat) : Decimal :=
  let point := pointOfCode code
  let found := (List.range 17).findSome? fun n : Nat => nearestOnGrid code (point - (n + 1))
  found.getD (exactDecimal code)

end Spreadsheet.Number

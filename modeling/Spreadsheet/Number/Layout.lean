import Spreadsheet.Number.Decimal

/-!
How numbers are written.

A `Layout` decides which decimals are written out and which with an exponent; a `Style` adds the
texts of what has no digits.  `cellStyle` is what a cell shows and `plainStyle` what a number
outside a formula is turned into.  Both write the shortest decimal of a double.
-/

namespace Spreadsheet.Number

/-- The choices that are open when a decimal is written. -/
structure Layout where
  /-- The least and the greatest position of the point at which a decimal is written out. -/
  leastPoint : Int
  greatestPoint : Int
  /-- What follows a whole number that is written out. -/
  wholeMark : List Char
  /-- The exponent has at least this many digits. -/
  exponentWidth : Nat

/-- The digits without the zeros at the end. -/
def stripZeros (digits : List Char) : List Char :=
  (digits.reverse.dropWhile (· == '0')).reverse

namespace Layout

/-- A decimal that is written out.  `point` is the position of the decimal point, counted from the
left of the digits. -/
def positional (l : Layout) (digits : List Char) (point : Int) : List Char :=
  if digits.length ≤ point then
    digits ++ List.replicate (point - digits.length).toNat '0' ++ l.wholeMark
  else if 0 < point then
    digits.take point.toNat ++ '.' :: digits.drop point.toNat
  else
    '0' :: '.' :: (List.replicate (-point).toNat '0' ++ digits)

/-- A decimal with one digit before the point, and an exponent with its sign. -/
def scientific (l : Layout) (digits : List Char) (point : Int) : List Char :=
  let exponent := point - 1
  let magnitude := Nat.toDigits 10 exponent.natAbs
  let fraction := digits.drop 1
  digits.take 1 ++ (if fraction.isEmpty then [] else '.' :: fraction)
    ++ 'e' :: (if exponent < 0 then '-' else '+')
    :: (List.replicate (l.exponentWidth - magnitude.length) '0' ++ magnitude)

/-- The positive number that the digits denote, with the last of them counting for
`10 ^ exponent`. -/
def write (l : Layout) (digits : List Char) (exponent : Int) : List Char :=
  let kept := stripZeros digits
  let point := (digits.length : Int) + exponent
  if l.leastPoint ≤ point ∧ point ≤ l.greatestPoint then l.positional kept point
  else l.scientific kept point

end Layout

/-- A layout together with the texts of zero, infinity and what is not a number. -/
structure Style where
  layout : Layout
  zero : String
  negativeZero : String
  infinity : String
  notANumber : String

/-- The text of a double. -/
def Style.render (s : Style) (x : Float) : String :=
  match Parts.ofFloat x with
  | .notANumber => s.notANumber
  | .infinite negative => (if negative then "-" else "") ++ s.infinity
  | .finite negative code =>
    if code = 0 then if negative then s.negativeZero else s.zero
    else
      let d := shortest code
      (if negative then "-" else "") ++
        String.ofList (s.layout.write (Nat.toDigits 10 d.digits) d.exponent)

/-- What a cell shows: whole numbers without a fraction, up to 21 digits before the point and five
zeros after it, and an exponent without padding beyond that. -/
def cellStyle : Style where
  layout := ⟨-5, 21, [], 1⟩
  zero := "0"
  negativeZero := "0"
  infinity := "Infinity"
  notANumber := "NaN"

/-- Plain number text: always with a fraction or an exponent, up to 16 digits before the point and
three zeros after it, and an exponent of at least two digits. -/
def plainStyle : Style where
  layout := ⟨-3, 16, ['.', '0'], 2⟩
  zero := "0.0"
  negativeZero := "-0.0"
  infinity := "inf"
  notANumber := "nan"

/-- The text that a cell shows for a computed number. -/
def display (x : Float) : String :=
  cellStyle.render x

end Spreadsheet.Number

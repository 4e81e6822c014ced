import Spreadsheet.Number.Decimal
import Spreadsheet.Text.Blank

/-!
Numerals at the start of a text.

A numeral is an optional sign and then either the word `Infinity` or a decimal: digits with an
optional point among them or at one end, and an optional exponent.  `Numeral.read?` takes the
longest one off the front of a text; `ofText` makes a cell's text a number with it, whatever
follows the numeral, and takes everything else for zero.
-/

namespace Spreadsheet.Number

/-- What a numeral denotes, its sign apart. -/
inductive Magnitude where
  | infinity
  | decimal (value : Decimal)
deriving DecidableEq, Repr

/-- A numeral's meaning. -/
structure Numeral where
  negative : Bool
  magnitude : Magnitude
deriving DecidableEq, Repr

namespace Numeral

/-- Takes a sign off the front, if there is one; the answer is whether it is a minus. -/
def readSign : List Char → Bool × List Char
  | '-' :: rest => (true, rest)
  | '+' :: rest => (false, rest)
  | rest => (false, rest)

/-- Takes digits with an optional point off the front; at least one digit is needed. -/
def readFixed? (cs : List Char) : Option (Decimal × List Char) :=
  let whole := cs.takeWhile Char.isDigit
  match cs.dropWhile Char.isDigit with
  | '.' :: rest =>
    let fraction := rest.takeWhile Char.isDigit
    if whole.isEmpty && fraction.isEmpty then none
    else some (⟨digitsValue (whole ++ fraction), -fraction.length⟩, rest.dropWhile Char.isDigit)
  | rest => if whole.isEmpty then none else some (⟨digitsValue whole, 0⟩, rest)

/-- Takes an exponent off the front: the letter, an optional sign, at least one digit. -/
def readExponent? : List Char → Option (Int × List Char)
  | [] => none
  | c :: rest =>
    if c = 'e' ∨ c = 'E' then
      let (negative, unsigned) := readSign rest
      let digits := unsigned.takeWhile Char.isDigit
      if digits.isEmpty then none
      else
        let value : Int := digitsValue digits
        some (if negative then -value else value, unsigned.dropWhile Char.isDigit)
    else none

/-- Takes the word `Infinity` or a decimal off the front. -/
def readMagnitude? : List Char → Option (Magnitude × List Char)
  | 'I' :: 'n' :: 'f' :: 'i' :: 'n' :: 'i' :: 't' :: 'y' :: rest => some (.infinity, rest)
  | cs =>
    match readFixed? cs with
    | none => none
    | some (fixed, rest) =>
      let (exponent, rest') := (readExponent? rest).getD (0, rest)
      some (.decimal ⟨fixed.digits, fixed.exponent + exponent⟩, rest')

/-- Takes a numeral off the front of a text. -/
def read? (cs : List Char) : Option (Numeral × List Char) :=
  let (negative, unsigned) := readSign cs
  (readMagnitude? unsigned).map fun (magnitude, rest) => (⟨negative, magnitude⟩, rest)

/-- The code of the nearest double, sign apart. -/
def code (n : Numeral) : Nat :=
  match n.magnitude with
  | .infinity => infinityCode
  | .decimal value => value.nearestCode

/-- The nearest double. -/
def toFloat (n : Numeral) : Float :=
  ofCode n.negative n.code

end Numeral

/-- The number in a cell: blanks aside, the numeral that its text begins with, or zero if there is
none.  Zero has no sign here. -/
def ofText (text : String) : Float :=
  match Numeral.read? (text.toList.dropWhile Text.isBlank) with
  | none => ofCode false 0
  | some (n, _) => if n.code = 0 then ofCode false 0 else n.toFloat

/-- The nearest double of a whole number, unless it is too large for one. -/
def ofInt? (n : Int) : Option Float :=
  let code := nearestCode n.natAbs 1
  if code = infinityCode then none else some (ofCode (decide (n < 0)) code)

end Spreadsheet.Number

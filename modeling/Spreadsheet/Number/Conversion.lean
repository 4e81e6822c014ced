import Spreadsheet.Number.Numeral
import Spreadsheet.Text.DecimalDigit

/-!
Whole texts made numbers.

The number in a cell is what its text begins with.  Where a text is converted as a whole, nothing
may be left over, but more ways of writing are allowed: white space at both ends, decimal digits of
any script, an underscore between two digits, and the words for infinity and for what is not a
number, in whatever case.
-/

namespace Spreadsheet.Number

/-- The code of what is not a number. -/
def notANumberCode : Nat := 0x7FF8000000000000

/-- The text without its underscores, if each of them stands between two digits.  The flag tells
whether a digit came right before. -/
def dropUnderscores? (afterDigit : Bool) : List Char → Option (List Char)
  | [] => some []
  | ['_'] => none
  | '_' :: c :: rest =>
    if afterDigit && c.isDigit then (dropUnderscores? true rest).map (c :: ·) else none
  | c :: rest => (dropUnderscores? c.isDigit rest).map (c :: ·)

/-- The number that a word denotes after a sign, in whatever case it is written. -/
def ofWord? (negative : Bool) (cs : List Char) : Option Float :=
  let word := String.ofList (cs.map Char.toLower)
  if word = "inf" ∨ word = "infinity" then some (ofCode negative infinityCode)
  else if word = "nan" then some (ofCode negative notANumberCode)
  else none

/-- The number that a whole text denotes: a word, or a numeral with nothing behind it. -/
def ofWholeText? (text : String) : Option Float :=
  match dropUnderscores? false ((Text.trim Text.isSpace text.toList).map Text.asciiDigit) with
  | none => none
  | some cs =>
    let (negative, unsigned) := Numeral.readSign cs
    match ofWord? negative unsigned, Numeral.read? cs with
    | some x, _ => some x
    | none, some (n, []) => some n.toFloat
    | none, _ => none

end Spreadsheet.Number

import Spreadsheet.Number.Digits
import Spreadsheet.Text.Blank

/-!
Whole numbers in texts.

A plain whole number is zero, or digits that begin with another one, after a minus sign or without
it.  `Whole.ofText` reads plain numbers and what becomes one when that which does not count is left
out: white space at the ends, a plus sign, zeros in front, a fraction of zeros, and underscores.  A
number of more than `maxDigits` digits is not read; a text that begins with one is told apart.
-/

namespace Spreadsheet.Number

/-- Why a text is not read as a whole number. -/
inductive WholeError where
  | malformed
  | tooManyDigits
deriving DecidableEq, Repr

namespace Whole

/-- A single zero, or digits that begin with another one. -/
def isPlain (cs : List Char) : Bool :=
  cs == ['0'] || (cs != [] && cs.head? != some '0' && cs.all Char.isDigit)

/-- The number that plain digits denote, unless there are too many. -/
def natural? (cs : List Char) : Option Nat :=
  if isPlain cs then (readNatural cs).toOption else none

/-- The number that a plain text denotes. -/
def plain? : List Char → Option Int
  | '-' :: cs => (natural? cs).map fun n => -(n : Int)
  | cs => (natural? cs).map Int.ofNat

/-- The text from the first character that counts.  Zeros in front do not count, nor do underscores
after the first of them, unless a point or nothing at all follows: then the last of them is kept.
A minus sign may follow the zeros. -/
def dropZeros? : List Char → Option (List Char)
  | '0' :: cs => go '0' cs
  | c :: cs => if c.isDigit then some (c :: cs) else none
  | [] => none
where
  /-- Goes on after a zero or an underscore. -/
  go (last : Char) : List Char → Option (List Char)
    | [] => some [last]
    | c :: cs =>
      if c = '0' ∨ c = '_' then go c cs
      else if c = '.' then some (last :: c :: cs)
      else if c.isDigit ∨ c = '-' then some (c :: cs)
      else none

/-- The text without a point and zeros at its end; at least one zero must follow the point. -/
def dropFraction (cs : List Char) : List Char :=
  match cs.reverse.dropWhile (· == '0') with
  | '.' :: whole => if cs.getLast? = some '0' then whole.reverse else cs
  | _ => cs

/-- Two underscores stand side by side. -/
def hasDouble : List Char → Bool
  | '_' :: '_' :: _ => true
  | _ :: cs => hasDouble cs
  | [] => false

/-- The text without its underscores, if each has other characters on both sides. -/
def dropUnderscores (cs : List Char) : List Char :=
  if cs.head? = some '_' ∨ cs.getLast? = some '_' ∨ hasDouble cs then cs
  else cs.filter (· != '_')

/-- What counts of a number without sign. -/
def unsigned? (cs : List Char) : Option (List Char) :=
  (dropZeros? cs).map fun rest => dropUnderscores (dropFraction rest)

/-- What counts of a text. -/
def tidy? (cs : List Char) : Option (List Char) :=
  match Text.trim Text.isSpace cs with
  | '-' :: rest => (unsigned? rest).map ('-' :: ·)
  | '+' :: '-' :: _ => none
  | '+' :: rest => unsigned? rest
  | rest => unsigned? rest

/-- The text begins with a plain number of too many digits. -/
def startsTooLong (cs : List Char) : Bool :=
  let digits := (if cs.head? = some '-' then cs.tail else cs).takeWhile Char.isDigit
  digits.head? != some '0' && maxDigits < digits.length

/-- The whole number that a text denotes. -/
def ofText (text : String) : Except WholeError Int :=
  let cs := text.toList
  if startsTooLong cs then .error .tooManyDigits
  else
    match (tidy? cs).bind plain? with
    | some n => .ok n
    | none => .error .malformed

end Whole

end Spreadsheet.Number

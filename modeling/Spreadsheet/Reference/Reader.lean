import Spreadsheet.Json.Value
import Spreadsheet.Number.Digits
import Spreadsheet.Range

/-!
Reading references.

A cell reference is one capital letter and a row number in decimal digits, a range reference two of
them with a colon between.  `CellRef.read` and `Range.read` accept nothing else.  `Range.find` looks
for the first range reference inside a longer text: the leftmost place at which one begins, and
there the longest one.
-/

namespace Spreadsheet

open Text (quoted)
open Number (TooManyDigits readNatural)

/-- Why a text is no reference. -/
inductive ReferenceError where
  | notText (kind : String)
  | malformed (text : String)
  | rowZero (text : String)
  | tooManyDigits (e : TooManyDigits)
  | reversed (first last : String)
  | notTwoParts (text : String)
deriving DecidableEq, Repr

/-- The wording of a refusal. -/
def ReferenceError.message : ReferenceError → String
  | .notText kind => s!"Cell reference must be a string, got {kind}"
  | .malformed text =>
    let shown := quoted text
    s!"Invalid cell reference: {shown}"
  | .rowZero text =>
    let shown := quoted text
    s!"Row numbers start at 1: {shown}"
  | .tooManyDigits e => e.message
  | .reversed first last => s!"Reversed range: {first}:{last}"
  | .notTwoParts text =>
    let shown := quoted text
    s!"Invalid range notation: {shown}"

namespace CellRef

/-- Reads a cell reference. -/
def read (text : String) : Except ReferenceError CellRef :=
  match text.toList with
  | [] => .error (.malformed text)
  | letter :: digits =>
    if letter.isUpper && !digits.isEmpty && digits.all Char.isDigit then
      match readNatural digits with
      | .error e => .error (.tooManyDigits e)
      | .ok 0 => .error (.rowZero text)
      | .ok (row + 1) => .ok ⟨row, columnOf letter⟩
    else .error (.malformed text)

/-- Reads a cell reference from a value that ought to be a text. -/
def ofJson : Json → Except ReferenceError CellRef
  | .string text => read text
  | v => .error (.notText v.kindName)

end CellRef

namespace Range

/-- The range between two corners that were read from the given texts. -/
def between (firstText lastText : String) (first last : CellRef) : Except ReferenceError Range :=
  match ofCorners first last with
  | .ok r => .ok r
  | .error _ => .error (.reversed firstText lastText)

/-- Reads the two corners of a range. -/
def readCorners (first last : String) : Except ReferenceError Range := do
  between first last (← CellRef.read first) (← CellRef.read last)

/-- Reads the two corners of a range from values that ought to be texts. -/
def ofJson (first last : Json) : Except ReferenceError Range := do
  let a ← CellRef.ofJson first
  let b ← CellRef.ofJson last
  match first, last with
  | .string firstText, .string lastText => between firstText lastText a b
  | _, _ => .error (.notText last.kindName)

/-- Reads a range reference. -/
def read (text : String) : Except ReferenceError Range :=
  let cs := text.toList
  match cs.dropWhile (· != ':') with
  | ':' :: last =>
    if ':' ∈ last then .error (.notTwoParts text)
    else readCorners (String.ofList (cs.takeWhile (· != ':'))) (String.ofList last)
  | _ => .error (.notTwoParts text)

/-- Takes a capital letter and all digits after it off the front; at least one digit is needed. -/
def takeCorner? : List Char → Option (List Char × List Char)
  | [] => none
  | letter :: rest =>
    let digits := rest.takeWhile Char.isDigit
    if letter.isUpper && !digits.isEmpty then
      some (letter :: digits, rest.dropWhile Char.isDigit)
    else none

/-- The texts of the two corners of the longest range reference that a text begins with. -/
def takeRange? (cs : List Char) : Option (List Char × List Char) :=
  match takeCorner? cs with
  | some (first, ':' :: rest) => (takeCorner? rest).map fun (last, _) => (first, last)
  | _ => none

/-- The texts of the corners of the first range reference in a text. -/
def search? : List Char → Option (List Char × List Char)
  | [] => none
  | c :: cs =>
    match takeRange? (c :: cs) with
    | some corners => some corners
    | none => search? cs

/-- The first range reference in a text.  If the first one that has the right form is reversed or
has a row that is not allowed, the text is refused. -/
def find (text : String) : Except ReferenceError (Option Range) :=
  match search? text.toList with
  | none => .ok none
  | some (first, last) => (readCorners (String.ofList first) (String.ofList last)).map some

end Range

end Spreadsheet

import Spreadsheet.Json.Value
import Spreadsheet.Number.Numeral

/-!
Reading JSON.

`Json.read` reads a whole text.  A text that is no document is refused with a cause and a place;
apart from that, whole numbers may have at most `maxDigits` digits, and how deep lists and objects
may be nested is for the caller to say.  The words `NaN`, `Infinity` and `-Infinity` count as
numbers.

Every reader takes what it knows off the front of the text and answers with the rest.  A refusal
carries the text that begins at its place, from which `Place.ofRest` finds line and column.
-/

namespace Spreadsheet.Json

open Number (TooManyDigits readNatural digitsValue)

/-- Why a text is no document. -/
inductive Cause where
  | byteOrderMark
  | value
  | name
  | colon
  | comma
  | extra
  | unterminated
  | control
  | escape
  | unicodeEscape
deriving DecidableEq, Repr

/-- The wording of a cause. -/
def Cause.message : Cause → String
  | .byteOrderMark => "Unexpected UTF-8 BOM (decode using utf-8-sig)"
  | .value => "Expecting value"
  | .name => "Expecting property name enclosed in double quotes"
  | .colon => "Expecting ':' delimiter"
  | .comma => "Expecting ',' delimiter"
  | .extra => "Extra data"
  | .unterminated => "Unterminated string starting at"
  | .control => "Invalid control character at"
  | .escape => "Invalid \\escape"
  | .unicodeEscape => "Invalid \\uXXXX escape"

/-- A place in a text: line and column from one, and the number of characters before it. -/
structure Place where
  line : Nat
  column : Nat
  offset : Nat
deriving DecidableEq, Repr

/-- The place at which the given rest of a text begins. -/
def Place.ofRest (text rest : List Char) : Place :=
  let offset := text.length - rest.length
  let before := text.take offset
  ⟨before.count '\n' + 1, (before.reverse.takeWhile (· != '\n')).length + 1, offset⟩

/-- Lists and objects, the two that nest. -/
inductive Container where
  | array
  | object
deriving DecidableEq, Repr

/-- The outcome of a reader that stops: refused where `rest` begins, or over a limit. -/
inductive Stop where
  | refused (cause : Cause) (rest : List Char)
  | tooDeep (container : Container)
  | tooManyDigits (e : TooManyDigits)

/-- Why a text is not read. -/
inductive ReadError where
  | malformed (cause : Cause) (place : Place)
  | tooDeep (container : Container)
  | tooManyDigits (e : TooManyDigits)
deriving DecidableEq, Repr

/-- The message of a refusal ends with its place. -/
def ReadError.message : ReadError → String
  | .malformed cause place =>
    let cause := cause.message
    let line := place.line
    let column := place.column
    let offset := place.offset
    s!"Invalid JSON: {cause}: line {line} column {column} (char {offset})"
  | .tooDeep container =>
    "maximum recursion depth exceeded while decoding a JSON " ++
      (match container with | .array => "array" | .object => "object") ++ " from a unicode string"
  | .tooManyDigits e => e.message

/-- A refusal with its place in the whole text. -/
def Stop.locate (text : List Char) : Stop → ReadError
  | .refused cause rest => .malformed cause (Place.ofRest text rest)
  | .tooDeep container => .tooDeep container
  | .tooManyDigits e => .tooManyDigits e

/-- The four characters that may stand between the parts of a document. -/
def isPadding (c : Char) : Bool :=
  c == ' ' || c == '\t' || c == '\n' || c == '\r'

/-- The text without the padding at its front. -/
def skip (cs : List Char) : List Char :=
  cs.dropWhile isPadding

/-- The value of a hexadecimal digit. -/
def hexValue? (c : Char) : Option Nat :=
  if '0' ≤ c ∧ c ≤ '9' then some (c.toNat - '0'.toNat)
  else if 'a' ≤ c ∧ c ≤ 'f' then some (c.toNat - 'a'.toNat + 10)
  else if 'A' ≤ c ∧ c ≤ 'F' then some (c.toNat - 'A'.toNat + 10)
  else none

/-- The number that four hexadecimal digits denote. -/
def hexUnit? (a b c d : Char) : Option Nat := do
  return (((← hexValue? a) * 16 + (← hexValue? b)) * 16 + (← hexValue? c)) * 16 + (← hexValue? d)

/-- The character that a short escape stands for. -/
def shortEscape? : Char → Option Char
  | '"' => some '"'
  | '\\' => some '\\'
  | '/' => some '/'
  | 'b' => some '\x08'
  | 'f' => some '\x0c'
  | 'n' => some '\n'
  | 'r' => some '\r'
  | 't' => some '\t'
  | _ => none

/-- The characters read so far, last one first, and a high surrogate that waits for its partner. -/
structure Pending where
  seen : List Char := []
  waiting : Option Nat := none

/-- The characters with U+FFFD for a surrogate that has no partner. -/
def Pending.settled (p : Pending) : List Char :=
  match p.waiting with
  | none => p.seen
  | some _ => '\uFFFD' :: p.seen

/-- Adds a character. -/
def Pending.push (p : Pending) (c : Char) : Pending :=
  ⟨c :: p.settled, none⟩

/-- Adds the unit of an escape; a high and a low surrogate in a row make one character. -/
def Pending.pushUnit (p : Pending) (unit : Nat) : Pending :=
  if 0xD800 ≤ unit ∧ unit < 0xDC00 then ⟨p.settled, some unit⟩
  else
    match p.waiting with
    | some high =>
      if 0xDC00 ≤ unit ∧ unit < 0xE000 then
        ⟨Char.ofNat (0x10000 + (high - 0xD800) * 0x400 + (unit - 0xDC00)) :: p.seen, none⟩
      else p.push (Char.ofNat unit)
    | none => if 0xDC00 ≤ unit ∧ unit < 0xE000 then p.push '\uFFFD' else p.push (Char.ofNat unit)

/-- Reads a string from behind its opening mark.  `opening` is the text from that mark on. -/
def readString (opening : List Char) (p : Pending) :
    List Char → Except Stop (String × List Char)
  | [] => .error (.refused .unterminated opening)
  | '"' :: rest => .ok (String.ofList p.settled.reverse, rest)
  | ['\\'] => .error (.refused .unterminated opening)
  | '\\' :: 'u' :: a :: b :: c :: d :: e :: rest =>
    match hexUnit? a b c d with
    | some unit => readString opening (p.pushUnit unit) (e :: rest)
    | none => .error (.refused .unicodeEscape ('u' :: a :: b :: c :: d :: e :: rest))
  | '\\' :: 'u' :: rest => .error (.refused .unicodeEscape ('u' :: rest))
  | '\\' :: c :: rest =>
    match shortEscape? c with
    | some meaning => readString opening (p.push meaning) rest
    | none => .error (.refused .escape ('\\' :: c :: rest))
  | c :: rest =>
    if c.toNat < 0x20 then .error (.refused .control (c :: rest))
    else readString opening (p.push c) rest

/-- The digits of a whole number: a zero alone, or digits of which the first is not zero. -/
def wholeDigits : List Char → List Char
  | '0' :: _ => ['0']
  | cs => cs.takeWhile Char.isDigit

/-- The digits after a point, if the text goes on with a point and a digit. -/
def fractionDigits : List Char → List Char
  | '.' :: rest => rest.takeWhile Char.isDigit
  | _ => []

/-- Reads a number, as far as it goes. -/
def readNumber (cs : List Char) : Except Stop (Json × List Char) :=
  let (negative, unsigned) : Bool × List Char :=
    match cs with
    | '-' :: rest => (true, rest)
    | _ => (false, cs)
  let whole := wholeDigits unsigned
  if whole.isEmpty then .error (.refused .value cs) else
  let afterWhole := unsigned.drop whole.length
  let fraction := fractionDigits afterWhole
  let afterFraction :=
    if fraction.isEmpty then afterWhole else afterWhole.drop (fraction.length + 1)
  match fraction.isEmpty, Number.Numeral.readExponent? afterFraction with
  | true, none =>
    match readNatural whole with
    | .ok n => .ok (.int (if negative then -n else n), afterFraction)
    | .error e => .error (.tooManyDigits e)
  | _, power =>
    let (exponent, rest) := power.getD (0, afterFraction)
    let value : Number.Decimal := ⟨digitsValue (whole ++ fraction), exponent - fraction.length⟩
    .ok (.float (Number.ofCode negative value.nearestCode), rest)

/-- A reader of one value. -/
abbrev ValueReader := List Char → Except Stop (Json × List Char)

/-- Reads the items of a list up to its end.  `fuel` bounds the number of items, and `seen` are
those before, last one first. -/
def readItems (element : ValueReader) :
    (fuel : Nat) → (seen : List Json) → List Char → Except Stop (List Json × List Char)
  | 0, _, cs => .error (.refused .value cs)
  | fuel + 1, seen, cs => do
    let (item, rest) ← element cs
    match skip rest with
    | ']' :: rest => .ok ((item :: seen).reverse, rest)
    | ',' :: rest => readItems element fuel (item :: seen) (skip rest)
    | rest => .error (.refused .comma rest)

/-- Reads the fields of an object up to its end. -/
def readFields (element : ValueReader) :
    (fuel : Nat) → (seen : List (String × Json)) → List Char →
      Except Stop (List (String × Json) × List Char)
  | 0, _, cs => .error (.refused .name cs)
  | fuel + 1, seen, '"' :: cs => do
    let (name, rest) ← readString ('"' :: cs) {} cs
    match skip rest with
    | ':' :: rest =>
      let (value, rest) ← element (skip rest)
      match skip rest with
      | '}' :: rest => .ok (((name, value) :: seen).reverse, rest)
      | ',' :: rest => readFields element fuel ((name, value) :: seen) (skip rest)
      | rest => .error (.refused .comma rest)
    | rest => .error (.refused .colon rest)
  | _ + 1, _, cs => .error (.refused .name cs)

/-- Reads a list of at most `fuel` items from behind its opening bracket. -/
def readArray (fuel : Nat) (element : ValueReader) : ValueReader := fun cs =>
  match skip cs with
  | ']' :: rest => .ok (.array [], rest)
  | rest => (readItems element fuel [] rest).map fun (items, rest) => (.array items, rest)

/-- Reads an object of at most `fuel` fields from behind its opening brace. -/
def readObject (fuel : Nat) (element : ValueReader) : ValueReader := fun cs =>
  match skip cs with
  | '}' :: rest => .ok (.object [], rest)
  | rest => (readFields element fuel [] rest).map fun (fields, rest) => (.object fields, rest)

/-- Reads one value that may contain `depth` levels of lists and objects, each of at most `fuel`
items or fields. -/
def readValue (fuel : Nat) : (depth : Nat) → ValueReader
  | _, '"' :: cs => (readString ('"' :: cs) {} cs).map fun (s, rest) => (.string s, rest)
  | 0, '[' :: _ => .error (.tooDeep .array)
  | 0, '{' :: _ => .error (.tooDeep .object)
  | depth + 1, '[' :: cs => readArray fuel (readValue fuel depth) cs
  | depth + 1, '{' :: cs => readObject fuel (readValue fuel depth) cs
  | _, 'n' :: 'u' :: 'l' :: 'l' :: rest => .ok (.null, rest)
  | _, 't' :: 'r' :: 'u' :: 'e' :: rest => .ok (.bool true, rest)
  | _, 'f' :: 'a' :: 'l' :: 's' :: 'e' :: rest => .ok (.bool false, rest)
  | _, 'N' :: 'a' :: 'N' :: rest =>
    .ok (.float (Number.ofCode false (Number.infinityCode + 1)), rest)
  | _, 'I' :: 'n' :: 'f' :: 'i' :: 'n' :: 'i' :: 't' :: 'y' :: rest =>
    .ok (.float (Number.ofCode false Number.infinityCode), rest)
  | _, '-' :: 'I' :: 'n' :: 'f' :: 'i' :: 'n' :: 'i' :: 't' :: 'y' :: rest =>
    .ok (.float (Number.ofCode true Number.infinityCode), rest)
  | _, cs => readNumber cs

/-- Reads a whole text of at most `depth` levels, padding around its one value allowed.  No list or
object in it has more items or fields than the text has characters. -/
def readText (depth : Nat) : ValueReader
  | '\uFEFF' :: rest => .error (.refused .byteOrderMark ('\uFEFF' :: rest))
  | cs => do
    let (v, rest) ← readValue cs.length depth (skip cs)
    match skip rest with
    | [] => .ok (v, [])
    | rest => .error (.refused .extra rest)

/-- The document that a text is, if its lists and objects are nested at most `depth` deep. -/
def read (depth : Nat) (text : String) : Except ReadError Json :=
  match readText depth text.toList with
  | .ok (v, _) => .ok v
  | .error stop => .error (stop.locate text.toList)

end Spreadsheet.Json

import Spreadsheet.Json.Value
import Spreadsheet.Number.Layout

/-!
Writing JSON.

A `Format` says how a document is laid out: on one line or with every item on a line of its own,
with which separators, with printable ASCII only or with all characters, and with the fields of an
object in their own order or sorted by name.  `Json.write` is the whole text of a document.
-/

namespace Spreadsheet.Json

/-- How items are indented: by a number of spaces a level, none if it is negative, or by a text. -/
inductive Indent where
  | spaces (count : Int)
  | text (unit : String)

/-- What one level of indentation adds. -/
def Indent.unit : Indent → List Char
  | .spaces count => List.replicate count.toNat ' '
  | .text unit => unit.toList

/-- How a document is laid out. -/
structure Format where
  /-- Without an indentation the document is one line. -/
  indent : Option Indent := none
  /-- Only the printable characters of ASCII stand as they are: delete and all beyond ASCII are
  escaped. -/
  asciiOnly : Bool := true
  /-- What stands between items and between a name and its value; by default a comma and a colon,
  each with a space after it unless a line ends there. -/
  separators : Option (String × String) := none
  /-- The fields of an object are sorted by name. -/
  sortNames : Bool := false

namespace Format

/-- What stands between two items of a list or an object. -/
def itemSeparator (f : Format) : List Char :=
  match f.separators, f.indent with
  | some (item, _), _ => item.toList
  | none, some _ => [',']
  | none, none => [',', ' ']

/-- What stands between a name and its value. -/
def nameSeparator (f : Format) : List Char :=
  match f.separators with
  | some (_, name) => name.toList
  | none => [':', ' ']

/-- The start of a new line at a level; nothing if the document is one line. -/
def newline (f : Format) (level : Nat) : List Char :=
  match f.indent with
  | none => []
  | some indent => '\n' :: (List.replicate level indent.unit).flatten

end Format

/-- Four hexadecimal digits after a backslash and the letter u. -/
def unitEscape (n : Nat) : List Char :=
  ['\\', 'u', Nat.digitChar (n / 4096 % 16), Nat.digitChar (n / 256 % 16),
    Nat.digitChar (n / 16 % 16), Nat.digitChar (n % 16)]

/-- A character by its code: one escape, or a pair of surrogates beyond U+FFFF. -/
def codeEscape (n : Nat) : List Char :=
  if n < 0x10000 then unitEscape n
  else unitEscape (0xD800 + (n - 0x10000) / 0x400) ++ unitEscape (0xDC00 + (n - 0x10000) % 0x400)

/-- A character as it stands in a string. -/
def writeChar (asciiOnly : Bool) (c : Char) : List Char :=
  if c = '"' then ['\\', '"']
  else if c = '\\' then ['\\', '\\']
  else if c = '\n' then ['\\', 'n']
  else if c = '\r' then ['\\', 'r']
  else if c = '\t' then ['\\', 't']
  else if c = '\x0c' then ['\\', 'f']
  else if c = '\x08' then ['\\', 'b']
  else if c.toNat < 0x20 then codeEscape c.toNat
  else if asciiOnly && 0x7F ≤ c.toNat then codeEscape c.toNat
  else [c]

/-- A string in quotation marks. -/
def writeString (asciiOnly : Bool) (s : String) : List Char :=
  '"' :: s.toList.flatMap (writeChar asciiOnly) ++ ['"']

/-- How a double is written: as plain number text, but with the words that the reader knows. -/
def numberStyle : Number.Style :=
  { Number.plainStyle with infinity := "Infinity", notANumber := "NaN" }

mutual

/-- The text of a value whose lines begin at the given level. -/
def render (f : Format) (level : Nat) : Json → List Char
  | .null => ['n', 'u', 'l', 'l']
  | .bool true => ['t', 'r', 'u', 'e']
  | .bool false => ['f', 'a', 'l', 's', 'e']
  | .int n => (toString n).toList
  | .float x => (numberStyle.render x).toList
  | .string s => writeString f.asciiOnly s
  | .array [] => ['[', ']']
  | .array (item :: items) =>
    '[' :: f.newline (level + 1) ++ render f (level + 1) item
      ++ renderItems f (level + 1) items ++ f.newline level ++ [']']
  | .object [] => ['{', '}']
  | .object ((name, value) :: fields) =>
    '{' :: f.newline (level + 1) ++ writeString f.asciiOnly name ++ f.nameSeparator
      ++ render f (level + 1) value ++ renderFields f (level + 1) fields ++ f.newline level
      ++ ['}']

/-- The items after the first, each with the separator before it. -/
def renderItems (f : Format) (level : Nat) : List Json → List Char
  | [] => []
  | item :: items =>
    f.itemSeparator ++ f.newline level ++ render f level item ++ renderItems f level items

/-- The fields after the first, each with the separator before it. -/
def renderFields (f : Format) (level : Nat) : List (String × Json) → List Char
  | [] => []
  | (name, value) :: fields =>
    f.itemSeparator ++ f.newline level ++ writeString f.asciiOnly name ++ f.nameSeparator
      ++ render f level value ++ renderFields f level fields

end

mutual

/-- The document with the fields of every object sorted by name. -/
def sortNames : Json → Json
  | .array items => .array (sortItems items)
  | .object fields => .object ((sortFields fields).mergeSort fun a b => a.1 ≤ b.1)
  | v => v

/-- The items with the fields of every object sorted. -/
def sortItems : List Json → List Json
  | [] => []
  | item :: items => sortNames item :: sortItems items

/-- The fields, in their own order, with the fields of every object below them sorted. -/
def sortFields : List (String × Json) → List (String × Json)
  | [] => []
  | (name, value) :: fields => (name, sortNames value) :: sortFields fields

end

/-- The text of a document. -/
def write (f : Format) (v : Json) : String :=
  String.ofList (render f 0 (if f.sortNames then v.sortNames else v))

end Spreadsheet.Json

import Spreadsheet.Grid
import Spreadsheet.Json.Printer
import Spreadsheet.Json.Reader

/-!
Grids as JSON documents.

The document of a grid is the list of its rows, each the list of its cells, each an object with the
two texts `value` and `formula`.  Reading accepts a little more: the formula may be missing, and
other fields are passed over.  A document that is refused is refused for its first defect in reading
order: the kind and the length of a row before its cells, and the width of the whole at the end.
-/

namespace Spreadsheet

/-- How deep the lists and objects of a text may be nested.  The limit is the system's own and may
be any that leaves room for the three levels of a grid's document. -/
structure DepthLimit where
  levels : Nat
  three_le : 3 ≤ levels
deriving DecidableEq, Repr

/-- The least limit. -/
def DepthLimit.least : DepthLimit :=
  ⟨3, Nat.le_refl 3⟩

/-- Why a value or a text is not the document of a grid. -/
inductive DocumentError where
  | notGrid (className : String)
  | notText (className : String)
  | unreadable (e : Json.ReadError)
  | notList (className : String)
  | noRows
  | badRow (row : Nat)
  | badWidth (row found expected : Nat)
  | notObject (row col : Nat) (kind : String)
  | noValue (row col : Nat)
  | notStrings (row col : Nat)
  | grid (e : GridError)
deriving DecidableEq, Repr

/-- The wording of a refusal. -/
def DocumentError.message : DocumentError → String
  | .notGrid className => s!"Expected Grid, got {className}"
  | .notText className => s!"Expected str, got {className}"
  | .unreadable e => e.message
  | .notList className => s!"Expected list, got {className}"
  | .noRows => "Serialized grid must have at least one row"
  | .badRow row => s!"Row {row} must be a non-empty list"
  | .badWidth row found expected => s!"Row {row} has {found} cells, expected {expected}"
  | .notObject row col kind => s!"Cell ({row}, {col}) must be an object, got {kind}"
  | .noValue row col => s!"Cell ({row}, {col}) is missing the 'value' field"
  | .notStrings row col => s!"Cell ({row}, {col}) fields must be strings"
  | .grid e => e.message

/-- The document of a cell. -/
def Cell.toJson (c : Cell) : Json :=
  .object [("value", .string c.value), ("formula", .string c.formula)]

/-- The document of a grid's contents. -/
def Snapshot.toJson (s : Snapshot) : Json :=
  .array (s.map fun row => .array (row.map Cell.toJson))

/-- The cell that an item of a row describes. -/
def Cell.ofJson (row col : Nat) : Json → Except DocumentError Cell
  | .object fields =>
    match Json.field? fields "value", (Json.field? fields "formula").getD (.string "") with
    | none, _ => .error (.noValue row col)
    | some (.string value), .string formula => .ok ⟨value, formula⟩
    | _, _ => .error (.notStrings row col)
  | v => .error (.notObject row col v.kindName)

/-- The items of a row; there must be some. -/
def rowItems (row : Nat) : Json → Except DocumentError (List Json)
  | .array (item :: items) => .ok (item :: items)
  | _ => .error (.badRow row)

/-- The cells that an item of a document describes, which must be of the given width. -/
def rowOfJson (width row : Nat) (v : Json) : Except DocumentError (List Cell) := do
  let items ← rowItems row v
  if items.length ≠ width then .error (.badWidth row items.length width)
  items.zipIdx.mapM fun (item, col) => Cell.ofJson row col item

/-- The contents that a document describes; the first row sets the width. -/
def Snapshot.ofJson : Json → Except DocumentError Snapshot
  | .array [] => .error .noRows
  | .array (first :: rest) => do
    let items ← rowItems 0 first
    (first :: rest).zipIdx.mapM fun (item, row) => rowOfJson items.length row item
  | v => .error (.notList v.className)

namespace Grid

/-- The document of a grid. -/
def toJson (g : Grid) : Json :=
  g.snapshot.toJson

/-- The grid that a document describes. -/
def ofJson (v : Json) : Except DocumentError Grid := do
  let s ← Snapshot.ofJson v
  match ofSnapshot s with
  | .ok g => .ok g
  | .error e => .error (.grid e)

/-- The text of a grid's document. -/
def write (g : Grid) (format : Json.Format) : String :=
  g.toJson.write format

/-- The grid whose document the text is. -/
def read (limit : DepthLimit) (text : String) : Except DocumentError Grid :=
  match Json.read limit.levels text with
  | .ok v => ofJson v
  | .error e => .error (.unreadable e)

end Grid

/-- The document of what ought to be a grid. -/
def documentOf : Grid ⊕ Json → Except DocumentError Json
  | .inl g => .ok g.toJson
  | .inr v => .error (.notGrid v.className)

/-- The grid described by what ought to be a text. -/
def gridOfJsonText (limit : DepthLimit) : Json → Except DocumentError Grid
  | .string text => Grid.read limit text
  | v => .error (.notText v.className)

end Spreadsheet

import Spreadsheet.Grid
import Spreadsheet.Number.Layout
import Spreadsheet.Text.Quoted

/-!
Frames: tables with labelled columns and numbered rows.

A grid becomes a frame of texts whose columns have the letters of the grid and whose rows are
counted from one.  A frame of any values becomes a grid of literals: the values fill the top left
block, a missing value leaves its cell empty, and the labels are not kept.

What frames and their values are is for a `FrameLibrary` to say; only what is asked of them is fixed
here.  Looking at a value may fail, and then the frame makes no grid.  `Frame.library` is a library
whose frames are tables of texts, numbers and lists of these.
-/

namespace Spreadsheet

/-- A table: the names of its columns, the number of its first row, the name of the row numbers,
and its values row by row. -/
structure Frame (α : Type) where
  columns : List String
  firstRow : Nat := 0
  rowName : String := ""
  data : List (List α)
  aligned : ∀ row ∈ data, row.length = columns.length
deriving DecidableEq, Repr

/-- A failure to look at a value, by the name of its kind and its message. -/
structure ValueFailure where
  kind : String
  message : String
deriving DecidableEq, Repr

/-- Why a frame makes no grid. -/
inductive FrameError where
  | doesNotFit (height width : Nat) (rows cols : Int)
  | grid (e : GridError)
  | value (e : ValueFailure)
deriving DecidableEq, Repr

/-- The wording of a refusal. -/
def FrameError.message : FrameError → String
  | .doesNotFit height width rows cols =>
    s!"DataFrame of shape ({height}, {width}) does not fit a {rows}x{cols} grid"
  | .grid e => e.message
  | .value e => e.message

namespace Frame

variable {α β : Type}

/-- How many rows a frame has. -/
def height (f : Frame α) : Nat :=
  f.data.length

/-- How many columns a frame has. -/
def width (f : Frame α) : Nat :=
  f.columns.length

/-- The frame with every value changed by a function. -/
def map (g : α → β) (f : Frame α) : Frame β where
  columns := f.columns
  firstRow := f.firstRow
  rowName := f.rowName
  data := f.data.map (·.map g)
  aligned := by
    intro row hrow
    obtain ⟨values, hvalues, rfl⟩ := List.mem_map.mp hrow
    rw [List.length_map]
    exact f.aligned values hvalues

/-- The numbers of the rows. -/
def rowNumbers (f : Frame α) : List Nat :=
  (List.range f.height).map (f.firstRow + ·)

/-- The table of a grid: of what there is to edit in its cells, or of their values. -/
def ofGrid (sources : Bool) (g : Grid) : Frame String where
  columns := (List.range g.cols).map fun col => String.singleton (letterOf col)
  firstRow := 1
  rowName := "row"
  data := g.snapshot.map (·.map fun cell => if sources then cell.source else cell.value)
  aligned := by
    intro row hrow
    obtain ⟨cells, hcells, rfl⟩ := List.mem_map.mp hrow
    rw [List.length_map, List.length_map, List.length_range]
    exact g.shape.2 cells hcells

end Frame

/-- A library of frames: what is asked of frames `δ` and of the values `ν` in them. -/
structure FrameLibrary (δ ν : Type) where
  /-- The frame of a table of texts. -/
  make : Frame String → δ
  /-- A text as a value. -/
  text : String → ν
  /-- The number of rows and the number of columns. -/
  shape : δ → Nat × Nat
  /-- The values row by row. -/
  rows : δ → List (List ν)
  /-- Whether a value is missing, if that is true or false. -/
  isMissing : ν → Except ValueFailure Bool
  /-- The string form of a value. -/
  form : ν → Except ValueFailure String

namespace FrameLibrary

variable {δ ν : Type} (lib : FrameLibrary δ ν)

/-- The frame of a grid. -/
def ofGrid (sources : Bool) (g : Grid) : δ :=
  lib.make (Frame.ofGrid sources g)

/-- The text that a value is stored as: its string form, unless it is missing. -/
def textOf (v : ν) : Except ValueFailure String := do
  if ← lib.isMissing v then return "" else lib.form v

/-- Writes values into a row of a grid, from a column on. -/
def putValues (row : Nat) : (col : Nat) → List ν → Grid → Except FrameError Grid
  | _, [], g => .ok g
  | col, v :: values, g => do
    let text ← (lib.textOf v).mapError .value
    putValues row (col + 1) values (← (g.set row col ⟨text, ""⟩).mapError .grid)

/-- Writes rows of values into a grid, from a row on. -/
def putRows : (row : Nat) → List (List ν) → Grid → Except FrameError Grid
  | _, [], g => .ok g
  | row, values :: rest, g => do putRows (row + 1) rest (← lib.putValues row 0 values g)

/-- The grid of a size with a frame's values in its top left block. -/
def toGrid (d : δ) (rows cols : Int) : Except FrameError Grid :=
  if rows < (lib.shape d).1 ∨ cols < (lib.shape d).2 then
    .error (.doesNotFit (lib.shape d).1 (lib.shape d).2 rows cols)
  else do lib.putRows 0 (lib.rows d) (← (Grid.new rows cols).mapError .grid)

end FrameLibrary

/-- A single value.  Anything of another kind is known by its string form. -/
inductive FrameValue where
  | missing
  | text (s : String)
  | int (n : Int)
  | bool (b : Bool)
  | float (x : Float)
  | other (form : String)
deriving DecidableEq

namespace FrameValue

/-- There is no value, or one that is not a number. -/
def isMissing : FrameValue → Bool
  | .missing => true
  | .float x => x.isNaN
  | .text _ | .int _ | .bool _ | .other _ => false

/-- The string form of a value; a whole number of too many digits has none. -/
def form : FrameValue → Except ValueFailure String
  | .missing => .ok "None"
  | .text s => .ok s
  | .int n =>
    if Number.digitCount n.natAbs ≤ Number.maxDigits then .ok (toString n)
    else .error ⟨"ValueError",
      s!"Exceeds the limit ({Number.maxDigits} digits) for integer string conversion; " ++
        "use sys.set_int_max_str_digits() to increase the limit"⟩
  | .bool b => .ok (if b then "True" else "False")
  | .float x => .ok (Number.plainStyle.render x)
  | .other form => .ok form

/-- The form of a value in a list, where texts are quoted. -/
def itemForm : FrameValue → Except ValueFailure String
  | .text s => .ok (Text.quoted s)
  | v => v.form

end FrameValue

/-- What stands at a place of a table: a single value, or a list of values. -/
inductive FrameEntry where
  | single (v : FrameValue)
  | list (items : List FrameValue)
deriving DecidableEq

namespace FrameEntry

/-- Whether an entry is missing.  Of a list this is asked item by item, and the answers are true or
false as a whole only if there is one. -/
def isMissing : FrameEntry → Except ValueFailure Bool
  | .single v | .list [v] => .ok v.isMissing
  | .list [] => .error ⟨"ValueError", "The truth value of an empty array is ambiguous. " ++
      "Use `array.size > 0` to check that an array is not empty."⟩
  | .list (_ :: _ :: _) => .error ⟨"ValueError", "The truth value of an array with more than " ++
      "one element is ambiguous. Use a.any() or a.all()"⟩

/-- The string form of an entry. -/
def form : FrameEntry → Except ValueFailure String
  | .single v => v.form
  | .list items => do return Text.bracketed (← items.mapM FrameValue.itemForm)

end FrameEntry

namespace Frame

/-- The library of tables.  Rows are put together from the columns, so that without columns there
are none. -/
def library : FrameLibrary (Frame FrameEntry) FrameEntry where
  make f := f.map fun s => .single (.text s)
  text s := .single (.text s)
  shape f := (f.height, f.width)
  rows f := if f.width = 0 then [] else f.data
  isMissing := FrameEntry.isMissing
  form := FrameEntry.form

/-- The first rows of a frame, with the columns of the given names alone. -/
def top (f : Frame String) (rows : Nat) (names : List String) : Frame String :=
  let chosen := names.filterMap f.columns.idxOf?
  { f with
    columns := chosen.map fun col => (f.columns[col]?).getD ""
    data := (f.data.take rows).map fun row => chosen.map fun col => (row[col]?).getD ""
    aligned := by
      intro row hrow
      obtain ⟨_, _, rfl⟩ := List.mem_map.mp hrow
      rw [List.length_map, List.length_map] }

/-- The text behind as many spaces as it needs to be of the given width. -/
def alignRight (width : Nat) (text : String) : String :=
  "".pushn ' ' (width - text.length) ++ text

/-- The text before as many spaces as it needs to be of the given width. -/
def alignLeft (width : Nat) (text : String) : String :=
  text.pushn ' ' (width - text.length)

/-- The length of the longest of some texts. -/
def longest (texts : List String) : Nat :=
  (texts.map String.length).foldl max 0

/-- The lines of a printed frame: the names of the columns, the name of the row numbers, and the
rows.  Row numbers are aligned to the left, all else to the right, two spaces apart. -/
def lines (f : Frame String) : List String :=
  let numbers := f.rowNumbers.map toString
  let margin := longest (f.rowName :: numbers)
  let widths := f.columns.zipIdx.map fun (name, col) =>
    longest (name :: f.data.map fun row => (row[col]?).getD "")
  let line (label : String) (texts : List String) : String :=
    alignLeft margin label ++
      String.join (List.zipWith (fun width text => "  " ++ alignRight width text) widths texts)
  line "" f.columns :: line f.rowName (f.columns.map fun _ => "")
    :: List.zipWith line numbers f.data

end Frame

end Spreadsheet

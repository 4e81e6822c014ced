import Spreadsheet.Text.Quoted

/-!
Columns and cell references.

Columns are named by the letters A to Z, rows are counted from one in a reference and from zero
everywhere else.  A `CellRef` may lie outside every grid; it has an A1 form only if its column has a
letter.  References are ordered by row, then by column.
-/

namespace Spreadsheet

open Text (quoted)

/-- How many columns have a letter. -/
def maxCols : Nat := 26

theorem maxCols_pos : 0 < maxCols := by decide

/-- Why a column has no letter, or a text is no column's letter. -/
inductive ColumnError where
  | outOfRange (col : Int)
  | notALetter (text : String)
deriving DecidableEq, Repr

/-- The wording of a refusal. -/
def ColumnError.message : ColumnError → String
  | .outOfRange col => s!"Column index out of range: {col}"
  | .notALetter text =>
    let shown := quoted text
    s!"Invalid column letter: {shown}"

/-- The letter of a column that has one. -/
def letterOf (col : Nat) : Char :=
  Char.ofNat ('A'.toNat + col)

/-- The column of a letter. -/
def columnOf (letter : Char) : Nat :=
  letter.toNat - 'A'.toNat

/-- The letter of a column names that column. -/
theorem columnOf_letterOf {col : Nat} (h : col < maxCols) : columnOf (letterOf col) = col := by
  revert col
  decide

/-- The letters of columns are capital letters. -/
theorem isUpper_letterOf {col : Nat} (h : col < maxCols) : (letterOf col).isUpper = true := by
  revert col
  decide

/-- The letter of a column. -/
def columnLetter (col : Int) : Except ColumnError String :=
  if 0 ≤ col ∧ col < maxCols then .ok (String.singleton (letterOf col.toNat))
  else .error (.outOfRange col)

/-- The column that a text names. -/
def columnIndex (text : String) : Except ColumnError Nat :=
  match text.toList with
  | [letter] => if letter.isUpper then .ok (columnOf letter) else .error (.notALetter text)
  | _ => .error (.notALetter text)

/-- A place in a sheet, row and column counted from zero. -/
structure CellRef where
  row : Int
  col : Int
deriving DecidableEq, Repr

namespace CellRef

/-- Row first, then column. -/
protected def lt (a b : CellRef) : Prop :=
  a.row < b.row ∨ a.row = b.row ∧ a.col < b.col

instance : LT CellRef := ⟨CellRef.lt⟩

instance (a b : CellRef) : Decidable (a < b) :=
  inferInstanceAs (Decidable (a.row < b.row ∨ a.row = b.row ∧ a.col < b.col))

theorem lt_iff (a b : CellRef) : a < b ↔ a.row < b.row ∨ a.row = b.row ∧ a.col < b.col :=
  Iff.rfl

/-- The reference in A1 form. -/
def toA1 (ref : CellRef) : Except ColumnError String :=
  (columnLetter ref.col).map fun letter => letter ++ toString (ref.row + 1)

/-- The A1 form, or the reason why there is none. -/
def label (ref : CellRef) : String :=
  match ref.toA1 with
  | .ok name => name
  | .error e => e.message

/-- The reference with its two coordinates. -/
def describe (ref : CellRef) : String :=
  let row := ref.row
  let col := ref.col
  s!"CellRef(row={row}, col={col})"

end CellRef

end Spreadsheet

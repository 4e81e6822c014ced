import Spreadsheet.Reference

/-!
Rectangles of cells.

A `Range` is given by its two corners, both of them inside; that the second does not precede the
first is part of the type.  `Range.cells` lists its references row by row: exactly those inside
(`Range.mem_cells_iff`), as many as there are (`Range.length_cells`).
-/

namespace Spreadsheet

/-- A rectangle of cells. -/
structure Range where
  topLeft : CellRef
  bottomRight : CellRef
  row_le : topLeft.row ≤ bottomRight.row
  col_le : topLeft.col ≤ bottomRight.col
deriving DecidableEq

/-- Why corners make no range, or a range's size is not told. -/
inductive RangeError where
  | reversed
  | tooLarge
deriving DecidableEq, Repr

/-- The wording of a refusal. -/
def RangeError.message : RangeError → String
  | .reversed => "End coordinates must be >= start coordinates"
  | .tooLarge => "cannot fit 'int' into an index-sized integer"

namespace Range

/-- The range with the given corners. -/
def ofCorners (first last : CellRef) : Except RangeError Range :=
  if h : first.row ≤ last.row ∧ first.col ≤ last.col then .ok ⟨first, last, h.1, h.2⟩
  else .error .reversed

/-- How many rows the range has. -/
def rows (r : Range) : Nat :=
  (r.bottomRight.row - r.topLeft.row + 1).toNat

/-- How many columns the range has. -/
def cols (r : Range) : Nat :=
  (r.bottomRight.col - r.topLeft.col + 1).toNat

/-- The cells of the range, row by row. -/
def cells (r : Range) : List CellRef :=
  (List.range r.rows).flatMap fun i : Nat =>
    (List.range r.cols).map fun j : Nat => ⟨r.topLeft.row + i, r.topLeft.col + j⟩

/-- The cell lies in the range. -/
protected def Mem (r : Range) (ref : CellRef) : Prop :=
  (r.topLeft.row ≤ ref.row ∧ ref.row ≤ r.bottomRight.row) ∧
    (r.topLeft.col ≤ ref.col ∧ ref.col ≤ r.bottomRight.col)

instance : Membership CellRef Range := ⟨Range.Mem⟩

instance (ref : CellRef) (r : Range) : Decidable (ref ∈ r) :=
  inferInstanceAs (Decidable (_ ∧ _))

theorem mem_iff (ref : CellRef) (r : Range) :
    ref ∈ r ↔ (r.topLeft.row ≤ ref.row ∧ ref.row ≤ r.bottomRight.row) ∧
      (r.topLeft.col ≤ ref.col ∧ ref.col ≤ r.bottomRight.col) :=
  Iff.rfl

/-- The number of cells, as long as it fits a machine word. -/
def size (r : Range) : Except RangeError Nat :=
  if r.rows * r.cols < Nat.pow 2 63 then .ok (r.rows * r.cols) else .error .tooLarge

/-- The two corners in A1 form, with a colon between them. -/
def toA1 (r : Range) : Except ColumnError String := do
  let first ← r.topLeft.toA1
  let last ← r.bottomRight.toA1
  return first ++ ":" ++ last

/-- The range with its A1 form. -/
def describe (r : Range) : Except ColumnError String :=
  r.toA1.map fun name => "Range(" ++ Text.quoted name ++ ")"

/-- A range has at least one row. -/
theorem rows_pos (r : Range) : 0 < r.rows := by
  have := r.row_le
  simp only [rows]
  omega

/-- A range has at least one column. -/
theorem cols_pos (r : Range) : 0 < r.cols := by
  have := r.col_le
  simp only [cols]
  omega

/-- The enumeration holds as many cells as the rectangle has room for. -/
theorem length_cells (r : Range) : r.cells.length = r.rows * r.cols := by
  simp only [cells, List.length_flatMap, List.length_map, List.length_range, List.map_const',
    List.sum_replicate_nat]

/-- The enumeration holds exactly the cells that lie in the range. -/
theorem mem_cells_iff (ref : CellRef) (r : Range) : ref ∈ r.cells ↔ ref ∈ r := by
  have hrow := r.row_le
  have hcol := r.col_le
  obtain ⟨row, col⟩ := ref
  simp only [cells, List.mem_flatMap, List.mem_map, List.mem_range, rows, cols, mem_iff,
    CellRef.mk.injEq]
  constructor
  · rintro ⟨i, hi, j, hj, rfl, rfl⟩
    exact ⟨⟨by omega, by omega⟩, by omega, by omega⟩
  · rintro ⟨⟨h1, h2⟩, h3, h4⟩
    exact ⟨(row - r.topLeft.row).toNat, by omega, (col - r.topLeft.col).toNat, by omega,
      by omega, by omega⟩

end Range

end Spreadsheet

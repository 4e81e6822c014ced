import Spreadsheet.Reference

/-!
The grid of cells.

A `Grid` is a rectangle of cells of a fixed size; that its contents have this size is part of the
type.  A `Snapshot` is the contents of a grid as plain rows, of any shape until a grid takes them:
`Grid.restore` takes only its own shape and `Grid.ofSnapshot` any rectangle that a grid may have.
`Grid.cellAt_put` says what a write does, and `Grid.restore_eq_ok_iff` what a grid takes.
-/

namespace Spreadsheet

/-- A cell: the text that it shows, and the formula it was computed from, empty if there is none. -/
structure Cell where
  value : String := ""
  formula : String := ""
deriving DecidableEq, Repr

namespace Cell

/-- The cell holds a formula. -/
def isFormula (c : Cell) : Bool :=
  c.formula != ""

/-- What there is to edit in the cell: its formula, or else its value. -/
def source (c : Cell) : String :=
  if c.isFormula then c.formula else c.value

end Cell

/-- The contents of a sheet, row by row. -/
abbrev Snapshot := List (List Cell)

/-- The contents are that many rows of that many cells. -/
def Snapshot.HasShape (s : Snapshot) (rows cols : Nat) : Prop :=
  s.length = rows ∧ ∀ row ∈ s, row.length = cols

instance (s : Snapshot) (rows cols : Nat) : Decidable (s.HasShape rows cols) :=
  inferInstanceAs (Decidable (_ ∧ _))

/-- Why an operation on a grid is refused. -/
inductive GridError where
  | notPositive
  | tooManyColumns
  | outside (row col : Int) (rows cols : Nat)
  | noCells
  | otherShape (rows cols : Nat)
deriving DecidableEq, Repr

/-- The wording of a refusal. -/
def GridError.message : GridError → String
  | .notPositive => "Grid dimensions must be positive integers"
  | .tooManyColumns => s!"Grid supports at most {maxCols} columns (A..Z)"
  | .outside row col rows cols => s!"Cell ({row}, {col}) is outside the {rows}x{cols} grid"
  | .noCells => "Snapshot must contain at least one cell"
  | .otherShape rows cols => s!"Snapshot does not match the {rows}x{cols} grid"

/-- A rectangle of cells of a fixed size. -/
structure Grid where
  rows : Nat
  cols : Nat
  cells : Snapshot
  rows_pos : 0 < rows
  cols_pos : 0 < cols
  cols_le : cols ≤ maxCols
  shape : cells.HasShape rows cols
deriving DecidableEq

namespace Grid

/-- The grid of empty cells of a size. -/
def blank (rows cols : Nat) (rows_pos : 0 < rows) (cols_pos : 0 < cols) (cols_le : cols ≤ maxCols) :
    Grid where
  rows := rows
  cols := cols
  cells := List.replicate rows (List.replicate cols {})
  rows_pos := rows_pos
  cols_pos := cols_pos
  cols_le := cols_le
  shape := by
    refine ⟨List.length_replicate, fun row h => ?_⟩
    rw [List.eq_of_mem_replicate h]
    exact List.length_replicate

/-- An empty grid, if the size is one that a grid may have. -/
def new (rows cols : Int) : Except GridError Grid :=
  if h : rows ≤ 0 ∨ cols ≤ 0 then .error .notPositive
  else if h' : (maxCols : Int) < cols then .error .tooManyColumns
  else .ok (blank rows.toNat cols.toNat (by omega) (by omega) (by omega))

/-- The cell with these coordinates exists. -/
def InBounds (g : Grid) (row col : Int) : Prop :=
  (0 ≤ row ∧ row < g.rows) ∧ (0 ≤ col ∧ col < g.cols)

instance (g : Grid) (row col : Int) : Decidable (g.InBounds row col) :=
  inferInstanceAs (Decidable (_ ∧ _))

/-- The cell at a place, empty if there is none. -/
def cellAt (g : Grid) (row col : Nat) : Cell :=
  ((g.cells[row]?.getD [])[col]?).getD {}

/-- The cell at a place of the grid. -/
def get (g : Grid) (row col : Int) : Except GridError Cell :=
  if g.InBounds row col then .ok (g.cellAt row.toNat col.toNat)
  else .error (.outside row col g.rows g.cols)

/-- Changing one cell keeps the shape. -/
theorem shape_modify (g : Grid) (row col : Nat) (cell : Cell) :
    Snapshot.HasShape (g.cells.modify row (·.set col cell)) g.rows g.cols := by
  refine ⟨by rw [List.length_modify]; exact g.shape.1, fun r h => ?_⟩
  obtain ⟨i, hi, rfl⟩ := List.mem_iff_getElem.mp h
  rw [List.length_modify] at hi
  have hr := g.shape.2 g.cells[i] (List.getElem_mem hi)
  rw [List.getElem_modify]
  split <;> simp [hr]

/-- The grid with another cell at a place; the same grid if there is no such place. -/
def put (g : Grid) (row col : Nat) (cell : Cell) : Grid :=
  { g with
    cells := g.cells.modify row (·.set col cell)
    shape := g.shape_modify row col cell }

/-- The grid with another cell at a place of it. -/
def set (g : Grid) (row col : Int) (cell : Cell) : Except GridError Grid :=
  if g.InBounds row col then .ok (g.put row.toNat col.toNat cell)
  else .error (.outside row col g.rows g.cols)

/-- A cell can be read exactly within the bounds, and then it is the stored one. -/
theorem get_eq_ok_iff (g : Grid) (row col : Int) (c : Cell) :
    g.get row col = .ok c ↔ g.InBounds row col ∧ g.cellAt row.toNat col.toNat = c := by
  rw [get]
  by_cases h : g.InBounds row col <;> simp [h]

/-- A cell can be written exactly within the bounds. -/
theorem set_eq_ok_iff (g g' : Grid) (row col : Int) (c : Cell) :
    g.set row col c = .ok g' ↔ g.InBounds row col ∧ g.put row.toNat col.toNat c = g' := by
  rw [set]
  by_cases h : g.InBounds row col <;> simp [h]

/-- After a write, the place holds the written cell and every other place what it held before. -/
theorem cellAt_put (g : Grid) {row col : Nat} (hrow : row < g.rows) (hcol : col < g.cols)
    (c : Cell) (r k : Nat) :
    (g.put row col c).cellAt r k = if r = row ∧ k = col then c else g.cellAt r k := by
  have hlen : row < g.cells.length := by
    rw [g.shape.1]
    exact hrow
  have hwidth : (g.cells[row]).length = g.cols := g.shape.2 _ (List.getElem_mem hlen)
  simp only [cellAt, put, List.getElem?_modify]
  by_cases hr : r = row
  · -- the row of the write
    subst hr
    rw [List.getElem?_eq_getElem hlen]
    simp only [Option.map_eq_map, Option.map_some, Option.getD_some, if_true, true_and]
    rw [List.getElem?_set]
    by_cases hk : k = col
    · subst hk
      simp [hwidth, hcol]
    · simp [hk, Ne.symm hk]
  · -- another row
    simp [hr, Ne.symm hr]

/-- The grid of the same size with every cell given by its place. -/
def fill (g : Grid) (f : Nat → Nat → Cell) : Grid :=
  { g with
    cells := (List.range g.rows).map fun row => (List.range g.cols).map (f row)
    shape := by
      refine ⟨by simp, fun row h => ?_⟩
      obtain ⟨i, _, rfl⟩ := List.mem_map.mp h
      simp }

/-- The contents of the grid. -/
def snapshot (g : Grid) : Snapshot :=
  g.cells

/-- The grid with other contents of its own shape. -/
def restore (g : Grid) (s : Snapshot) : Except GridError Grid :=
  if h : s.HasShape g.rows g.cols then .ok { g with cells := s, shape := h }
  else .error (.otherShape g.rows g.cols)

/-- A grid takes exactly the contents of its own shape. -/
theorem restore_eq_ok_iff (g g' : Grid) (s : Snapshot) :
    g.restore s = .ok g' ↔
      s.HasShape g.rows g.cols ∧ g'.rows = g.rows ∧ g'.cols = g.cols ∧ g'.cells = s := by
  rw [restore]
  by_cases h : s.HasShape g.rows g.cols
  · rw [dif_pos h, Except.ok.injEq]
    constructor
    · rintro rfl
      exact ⟨h, rfl, rfl, rfl⟩
    · rintro ⟨_, hrows, hcols, hcells⟩
      cases g'
      cases g
      simp_all
  · rw [dif_neg h]
    constructor
    · intro heq
      cases heq
    · intro hs
      exact absurd hs.1 h

/-- Grids with the same contents are the same: the contents tell the size. -/
theorem eq_of_cells_eq {g g' : Grid} (h : g.cells = g'.cells) : g = g' := by
  have hrows : g.rows = g'.rows := by
    rw [← g.shape.1, ← g'.shape.1, h]
  have hcols : g.cols = g'.cols := by
    have hpos : 0 < g.cells.length := by
      rw [g.shape.1]
      exact g.rows_pos
    have hmem := List.getElem_mem hpos
    rw [← g.shape.2 _ hmem]
    exact g'.shape.2 _ (h ▸ hmem)
  cases g
  cases g'
  simp_all

/-- The grid with the given contents, if they are a rectangle that a grid may have. -/
def ofSnapshot (s : Snapshot) : Except GridError Grid :=
  match s with
  | [] | [] :: _ => .error .noCells
  | row :: rows => do (← new (row :: rows).length row.length).restore s

/-- The cells with their places, row by row. -/
def entries (g : Grid) : List (CellRef × Cell) :=
  g.cells.zipIdx.flatMap fun (row, r) => row.zipIdx.map fun (cell, c) => (⟨r, c⟩, cell)

/-- The cells that hold a formula, with their places, row by row. -/
def formulaCells (g : Grid) : List (CellRef × Cell) :=
  g.entries.filter fun entry => entry.2.isFormula

/-- The grid with its size. -/
def describe (g : Grid) : String :=
  let rows := g.rows
  let cols := g.cols
  s!"Grid(rows={rows}, cols={cols})"

end Grid

end Spreadsheet

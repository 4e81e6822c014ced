import Spreadsheet.Grid

/-!
The places of a grid and what they hold.

Grids of one size that hold the same cells are the same (`Grid.eq_of_cellAt_eq`).  The cells with
their places are listed row by row: `Grid.mem_entries_iff` says which they are, and
`Grid.pairwise_entries` that their places increase, so that no place is listed twice.
-/

namespace Spreadsheet

/-- The numbers beside the items of a list increase. -/
theorem pairwise_zipIdx {α : Type} (l : List α) (k : Nat) :
    (l.zipIdx k).Pairwise fun a b => a.2 < b.2 := by
  have h : ((l.zipIdx k).map Prod.snd).Pairwise (· < ·) := by
    rw [List.zipIdx_map_snd]
    exact List.pairwise_lt_range'
  exact List.pairwise_map.mp h

/-- A cell is its value and its formula. -/
theorem Cell.eq_of_value_eq {c c' : Cell} (hvalue : c.value = c'.value)
    (hformula : c.formula = c'.formula) : c = c' := by
  cases c
  cases c'
  rw [mk.injEq]
  exact ⟨hvalue, hformula⟩

theorem CellRef.ne_of_lt {a b : CellRef} (h : a < b) : a ≠ b := by
  rintro rfl
  rcases h with h | ⟨_, h⟩
  · exact Int.lt_irrefl _ h
  · exact Int.lt_irrefl _ h

namespace Grid

/-- Every place of a grid holds a cell. -/
theorem exists_row (g : Grid) {row col : Nat} (hrow : row < g.rows) (hcol : col < g.cols) :
    ∃ cells, g.cells[row]? = some cells ∧ cells[col]? = some (g.cellAt row col) := by
  have hlen : row < g.cells.length := by
    rw [g.shape.1]
    exact hrow
  have hwidth : (g.cells[row]).length = g.cols := g.shape.2 _ (List.getElem_mem hlen)
  refine ⟨g.cells[row], List.getElem?_eq_getElem hlen, ?_⟩
  rw [cellAt, List.getElem?_eq_getElem hlen, Option.getD_some,
    List.getElem?_eq_getElem (by omega), Option.getD_some]

theorem cellAt_eq_of_getElem? {g : Grid} {row col : Nat} {cells : List Cell} {c : Cell}
    (hrow : g.cells[row]? = some cells) (hcol : cells[col]? = some c) :
    (row < g.rows ∧ col < g.cols) ∧ g.cellAt row col = c := by
  obtain ⟨hlen, hcells⟩ := List.getElem?_eq_some_iff.mp hrow
  obtain ⟨hwidth, _⟩ := List.getElem?_eq_some_iff.mp hcol
  refine ⟨⟨?_, ?_⟩, ?_⟩
  · rw [← g.shape.1]
    exact hlen
  · rw [← g.shape.2 cells (hcells ▸ List.getElem_mem hlen)]
    exact hwidth
  · rw [cellAt, hrow, Option.getD_some, hcol, Option.getD_some]

theorem cellAt_fill (g : Grid) (f : Nat → Nat → Cell) {row col : Nat} (hrow : row < g.rows)
    (hcol : col < g.cols) : (g.fill f).cellAt row col = f row col := by
  simp [cellAt, fill, hrow, hcol]

/-- A place outside of the grid has the empty cell. -/
theorem cellAt_of_not_lt (g : Grid) {row col : Nat} (h : ¬(row < g.rows ∧ col < g.cols)) :
    g.cellAt row col = {} := by
  rw [cellAt]
  cases hcells : g.cells[row]? with
  | none => rfl
  | some cells =>
    rw [Option.getD_some]
    cases hcell : cells[col]? with
    | none => rfl
    | some c => exact absurd (cellAt_eq_of_getElem? hcells hcell).1 h

/-- Grids of one size that hold the same cells are the same. -/
theorem eq_of_cellAt_eq {g g' : Grid} (hrows : g.rows = g'.rows) (hcols : g.cols = g'.cols)
    (hcells : ∀ row col, row < g.rows → col < g.cols → g.cellAt row col = g'.cellAt row col) :
    g = g' := by
  refine eq_of_cells_eq (List.ext_getElem ?_ fun row hrow hrow' => List.ext_getElem ?_ ?_)
  · rw [g.shape.1, g'.shape.1, hrows]
  · rw [g.shape.2 _ (List.getElem_mem hrow), g'.shape.2 _ (List.getElem_mem hrow'), hcols]
  · intro col hcol hcol'
    have hfst := cellAt_eq_of_getElem? (List.getElem?_eq_getElem hrow)
      (List.getElem?_eq_getElem hcol)
    have hsnd := cellAt_eq_of_getElem? (List.getElem?_eq_getElem hrow')
      (List.getElem?_eq_getElem hcol')
    rw [← hfst.2, ← hsnd.2]
    exact hcells row col hfst.1.1 hfst.1.2

/-- The entries of a grid are its places with what they hold. -/
theorem mem_entries_iff (g : Grid) (entry : CellRef × Cell) :
    entry ∈ g.entries ↔
      ∃ row col : Nat, row < g.rows ∧ col < g.cols ∧ entry = (⟨row, col⟩, g.cellAt row col) := by
  rw [entries, List.mem_flatMap]
  constructor
  · rintro ⟨⟨cells, row⟩, hrow, hentry⟩
    obtain ⟨⟨c, col⟩, hcol, rfl⟩ := List.mem_map.mp hentry
    have hcell := cellAt_eq_of_getElem? (List.mem_zipIdx_iff_getElem?.mp hrow)
      (List.mem_zipIdx_iff_getElem?.mp hcol)
    exact ⟨row, col, hcell.1.1, hcell.1.2, by rw [hcell.2]⟩
  · rintro ⟨row, col, hrow, hcol, rfl⟩
    obtain ⟨cells, hcells, hcell⟩ := g.exists_row hrow hcol
    refine ⟨(cells, row), List.mem_zipIdx_iff_getElem?.mpr hcells, List.mem_map.mpr ?_⟩
    exact ⟨(g.cellAt row col, col), List.mem_zipIdx_iff_getElem?.mpr hcell, rfl⟩

/-- The places of the entries increase, row first. -/
theorem pairwise_entries (g : Grid) : g.entries.Pairwise fun a b => a.1 < b.1 := by
  rw [entries, List.pairwise_flatMap]
  constructor
  · rintro ⟨cells, row⟩ _
    rw [List.pairwise_map]
    refine (pairwise_zipIdx cells 0).imp fun {a b} hlt => ?_
    exact .inr ⟨rfl, Int.ofNat_lt.mpr hlt⟩
  · refine (pairwise_zipIdx g.cells 0).imp fun {a b} hlt => ?_
    intro x hx y hy
    obtain ⟨c, _, rfl⟩ := List.mem_map.mp hx
    obtain ⟨c', _, rfl⟩ := List.mem_map.mp hy
    exact .inl (Int.ofNat_lt.mpr hlt)

theorem mem_entries_of_mem_formulaCells {g : Grid} {entry : CellRef × Cell}
    (h : entry ∈ g.formulaCells) : entry ∈ g.entries :=
  (List.mem_filter.mp h).1

/-- The places of the formula cells increase, row first. -/
theorem pairwise_formulaCells (g : Grid) : g.formulaCells.Pairwise fun a b => a.1 < b.1 :=
  g.pairwise_entries.filter _

/-- No place is listed twice. -/
theorem nodup_formulaCells (g : Grid) : (g.formulaCells.map Prod.fst).Nodup :=
  List.pairwise_map.mpr (g.pairwise_formulaCells.imp CellRef.ne_of_lt)

/-- The formula cells that are listed before one have earlier places. -/
theorem lt_of_formulaCells_eq {g : Grid} {before after : List (CellRef × Cell)}
    {entry : CellRef × Cell} (h : g.formulaCells = before ++ entry :: after) :
    ∀ x ∈ before, x.1 < entry.1 := by
  intro x hx
  have hsorted := g.pairwise_formulaCells
  rw [h, List.pairwise_append] at hsorted
  exact hsorted.2.2 x hx entry List.mem_cons_self

theorem not_mem_of_formulaCells_eq {g : Grid} {before after : List (CellRef × Cell)}
    {entry : CellRef × Cell} (h : g.formulaCells = before ++ entry :: after) :
    entry.1 ∉ before.map Prod.fst := by
  intro hmem
  obtain ⟨x, hx, heq⟩ := List.mem_map.mp hmem
  exact CellRef.ne_of_lt (lt_of_formulaCells_eq h x hx) heq

end Grid

end Spreadsheet

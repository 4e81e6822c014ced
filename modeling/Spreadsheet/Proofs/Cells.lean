import Spreadsheet.Proofs.Dependence
import Spreadsheet.Proofs.Evaluation

/-!
The cells of a range in their order.

The cells are listed row by row, so the place of a cell in the list tells its row and its column by
division (`Range.cells_eq_map`).  Later cells are greater (`Range.pairwise_cells`): row first, then
column.  `Range.mem_before_iff` is what that says about the cells before a given one.  The numbers
of a range stand in the same order (`Formula.rangeValues_of_inBounds`).
-/

namespace Spreadsheet

/-- Rows of one width laid end to end are numbered by quotient and remainder. -/
theorem flatMap_range_map {α : Type} (f : Nat → Nat → α) {cols : Nat} (hcols : 0 < cols)
    (rows : Nat) :
    ((List.range rows).flatMap fun i => (List.range cols).map (f i)) =
      (List.range (rows * cols)).map fun k => f (k / cols) (k % cols) := by
  induction rows with
  | zero => simp
  | succ rows ih =>
    have hrow : (List.range cols).map (f rows) =
        (List.range cols).map fun j => f ((rows * cols + j) / cols) ((rows * cols + j) % cols) := by
      refine List.map_congr_left fun j hj => ?_
      have hlt : j < cols := List.mem_range.mp hj
      rw [Nat.mul_comm, Nat.mul_add_div hcols, Nat.mul_add_mod, Nat.div_eq_of_lt hlt,
        Nat.mod_eq_of_lt hlt, Nat.add_zero]
    rw [List.range_succ, List.flatMap_append, ih, Nat.succ_mul, List.range_add, List.map_append,
      List.map_map]
    simp [hrow, Function.comp_def]

namespace Range

theorem bottomRight_mem (r : Range) : r.bottomRight ∈ r :=
  ⟨⟨r.row_le, Int.le_refl _⟩, r.col_le, Int.le_refl _⟩

/-- The cells are numbered row by row. -/
theorem cells_eq_map (r : Range) :
    r.cells = (List.range (r.rows * r.cols)).map fun k : Nat =>
      (⟨r.topLeft.row + (k / r.cols : Nat), r.topLeft.col + (k % r.cols : Nat)⟩ : CellRef) := by
  rw [cells, flatMap_range_map (fun i j : Nat => (⟨r.topLeft.row + i, r.topLeft.col + j⟩ : CellRef))
    r.cols_pos]

/-- The cells increase, row first. -/
theorem pairwise_cells (r : Range) : r.cells.Pairwise (· < ·) := by
  rw [cells_eq_map, List.pairwise_map]
  refine List.pairwise_lt_range.imp fun {k k'} hlt => ?_
  rw [CellRef.lt_iff]
  have hdiv : k / r.cols ≤ k' / r.cols := Nat.div_le_div_right (Nat.le_of_lt hlt)
  rcases Nat.lt_or_eq_of_le hdiv with hrow | hrow
  · left
    dsimp only
    omega
  · -- in one row the remainders increase
    right
    have hk := Nat.div_add_mod k r.cols
    have hk' := Nat.div_add_mod k' r.cols
    rw [hrow] at hk
    dsimp only
    rw [hrow]
    exact ⟨rfl, by omega⟩

/-- The cells before a cell are those that are less. -/
theorem mem_before_iff {r : Range} {before after : List CellRef} {ref : CellRef}
    (h : r.cells = before ++ ref :: after) (other : CellRef) :
    other ∈ before ↔ other ∈ r ∧ other < ref := by
  have hsorted := r.pairwise_cells
  rw [h, List.pairwise_append] at hsorted
  rw [← mem_cells_iff, h, List.mem_append]
  constructor
  · intro hmem
    exact ⟨.inl hmem, hsorted.2.2 other hmem ref List.mem_cons_self⟩
  · rintro ⟨hmem | hmem, hlt⟩
    · exact hmem
    · exfalso
      rcases List.mem_cons.mp hmem with rfl | hafter
      · exact CellRef.lt_irrefl other hlt
      · exact CellRef.lt_asymm hlt ((List.pairwise_cons.mp hsorted.2.1).1 other hafter)

end Range

namespace Formula

open Number (ofText)

variable {g : Grid} {r : Range}

/-- The numbers stand in the order of the cells. -/
theorem rangeValues_of_inBounds (h : ∀ ref ∈ r, g.InBounds ref.row ref.col) :
    rangeValues g r = .ok (r.cells.map fun ref =>
      ofText (g.cellAt ref.row.toNat ref.col.toNat).value) := by
  have hread : ∀ ref ∈ r.cells, numberAt g ref =
      pure (ofText (g.cellAt ref.row.toNat ref.col.toNat).value) := by
    intro ref href
    exact numberAt_of_inBounds (h ref ((Range.mem_cells_iff ref r).mp href))
  rw [rangeValues, mapM_congr hread, List.mapM_pure]
  rfl

/-- A range can only be read if all of it lies in the grid. -/
theorem inBounds_of_rangeValues {values : List Float} (h : rangeValues g r = .ok values)
    {ref : CellRef} (href : ref ∈ r) : g.InBounds ref.row ref.col := by
  obtain ⟨x, hx⟩ := exists_of_mapM_eq_ok h ((Range.mem_cells_iff ref r).mpr href)
  exact numberAt_eq_ok hx

end Formula

end Spreadsheet

import Spreadsheet.Formula.Evaluation
import Spreadsheet.Proofs.Places

/-!
What an evaluation depends on.

A formula reads the range that is found in it, and of the cells there nothing but their values:
`Formula.evaluate_eq_of_agreesOn` says that grids which agree on the range give the same outcome,
whatever the reducers are.  A cell that is written outside of the range has no part in it
(`Grid.agreesOn_put`).  `Grid.Reads` is the relation between places that this makes.
-/

namespace Spreadsheet

open Formula (Registry)

theorem CellRef.lt_irrefl (a : CellRef) : ¬a < a :=
  fun h => CellRef.ne_of_lt h rfl

theorem CellRef.lt_asymm {a b : CellRef} (h : a < b) : ¬b < a := by
  rw [CellRef.lt_iff] at h ⊢
  omega

instance : Std.Irrefl (fun a b : CellRef => a < b) :=
  ⟨CellRef.lt_irrefl⟩

instance : Std.Antisymm (fun a b : CellRef => a < b) :=
  ⟨fun _ _ h h' => absurd h' (CellRef.lt_asymm h)⟩

namespace Grid

/-- The grids have one size and show the same values in the range. -/
structure AgreesOn (g g' : Grid) (r : Range) : Prop where
  rows : g'.rows = g.rows
  cols : g'.cols = g.cols
  value : ∀ row col : Nat, ⟨row, col⟩ ∈ r → (g'.cellAt row col).value = (g.cellAt row col).value

/-- What is written outside of a range leaves the range as it was. -/
theorem agreesOn_put {g : Grid} {row col : Nat} {r : Range} (hrow : row < g.rows)
    (hcol : col < g.cols) (hout : (⟨row, col⟩ : CellRef) ∉ r) (c : Cell) :
    g.AgreesOn (g.put row col c) r := by
  refine ⟨rfl, rfl, fun i j hij => ?_⟩
  rw [g.cellAt_put hrow hcol]
  by_cases hplace : i = row ∧ j = col
  · obtain ⟨rfl, rfl⟩ := hplace
    exact absurd hij hout
  · rw [if_neg hplace]

/-- The grids have one size and hold the same formulas. -/
structure SameFormulas (g g' : Grid) : Prop where
  rows : g'.rows = g.rows
  cols : g'.cols = g.cols
  formula : ∀ row col : Nat, (g'.cellAt row col).formula = (g.cellAt row col).formula

theorem SameFormulas.refl (g : Grid) : g.SameFormulas g :=
  ⟨rfl, rfl, fun _ _ => rfl⟩

theorem SameFormulas.trans {g g' g'' : Grid} (h : g.SameFormulas g') (h' : g'.SameFormulas g'') :
    g.SameFormulas g'' :=
  ⟨h'.rows.trans h.rows, h'.cols.trans h.cols,
    fun row col => (h'.formula row col).trans (h.formula row col)⟩

theorem mem_formulaCells_iff (g : Grid) (entry : CellRef × Cell) :
    entry ∈ g.formulaCells ↔
      ∃ row col : Nat, (row < g.rows ∧ col < g.cols) ∧ (g.cellAt row col).formula ≠ "" ∧
        entry = (⟨row, col⟩, g.cellAt row col) := by
  rw [formulaCells, List.mem_filter, mem_entries_iff]
  constructor
  · rintro ⟨⟨row, col, hrow, hcol, rfl⟩, hformula⟩
    exact ⟨row, col, ⟨hrow, hcol⟩, bne_iff_ne.mp hformula, rfl⟩
  · rintro ⟨row, col, ⟨hrow, hcol⟩, hformula, rfl⟩
    exact ⟨⟨row, col, hrow, hcol, rfl⟩, bne_iff_ne.mpr hformula⟩

/-- Where one grid has a formula cell, the other one has a cell of the same formula. -/
theorem SameFormulas.exists_mem {g g' : Grid} (h : g.SameFormulas g') {entry : CellRef × Cell}
    (hmem : entry ∈ g.formulaCells) :
    ∃ c', (entry.1, c') ∈ g'.formulaCells ∧ c'.formula = entry.2.formula := by
  obtain ⟨row, col, hin, hformula, rfl⟩ := (g.mem_formulaCells_iff entry).mp hmem
  refine ⟨g'.cellAt row col, (g'.mem_formulaCells_iff _).mpr ⟨row, col, ?_, ?_, rfl⟩,
    h.formula row col⟩
  · rw [h.rows, h.cols]
    exact hin
  · rw [h.formula]
    exact hformula

theorem SameFormulas.symm {g g' : Grid} (h : g.SameFormulas g') : g'.SameFormulas g :=
  ⟨h.rows.symm, h.cols.symm, fun row col => (h.formula row col).symm⟩

/-- The formula at the place `p` reads the place `q`. -/
def Reads (g : Grid) (p q : CellRef) : Prop :=
  ∃ c r, (p, c) ∈ g.formulaCells ∧ Range.find c.formula = .ok (some r) ∧ q ∈ r

theorem SameFormulas.reads {g g' : Grid} (h : g.SameFormulas g') {p q : CellRef}
    (hreads : g.Reads p q) : g'.Reads p q := by
  obtain ⟨c, r, hmem, hfind, hq⟩ := hreads
  obtain ⟨c', hmem', hformula⟩ := h.exists_mem hmem
  refine ⟨c', r, hmem', ?_, hq⟩
  rw [hformula]
  exact hfind

end Grid

namespace Formula

variable {g g' : Grid} {r : Range}

theorem numberAt_eq_of_agreesOn (h : g.AgreesOn g' r) {ref : CellRef} (href : ref ∈ r) :
    numberAt g' ref = numberAt g ref := by
  rw [numberAt, numberAt, Grid.get, Grid.get]
  by_cases hin : g.InBounds ref.row ref.col
  · have hin' : g'.InBounds ref.row ref.col := by
      rw [Grid.InBounds, h.rows, h.cols]
      exact hin
    have hplace : (⟨(ref.row.toNat : Nat), (ref.col.toNat : Nat)⟩ : CellRef) = ref := by
      rw [Int.toNat_of_nonneg hin.1.1, Int.toNat_of_nonneg hin.2.1]
    have hvalue := h.value ref.row.toNat ref.col.toNat (by rw [hplace]; exact href)
    rw [if_pos hin, if_pos hin']
    show Except.ok (Number.ofText _) = Except.ok (Number.ofText _)
    rw [hvalue]
  · have hin' : ¬g'.InBounds ref.row ref.col := by
      rw [Grid.InBounds, h.rows, h.cols]
      exact hin
    rw [if_neg hin, if_neg hin']

theorem mapM_congr {ε α β : Type} {f f' : α → Except ε β} {l : List α}
    (h : ∀ a ∈ l, f a = f' a) : l.mapM f = l.mapM f' := by
  induction l with
  | nil => rfl
  | cons a l ih =>
    rw [List.mapM_cons, List.mapM_cons, h a List.mem_cons_self,
      ih fun a' ha' => h a' (List.mem_cons_of_mem a ha')]

theorem rangeValues_eq_of_agreesOn (h : g.AgreesOn g' r) : rangeValues g' r = rangeValues g r := by
  refine mapM_congr fun ref href => numberAt_eq_of_agreesOn h ?_
  exact (Range.mem_cells_iff ref r).mp href

/-- An evaluation reads nothing but the values in the range of its formula. -/
theorem evaluate_eq_of_agreesOn (registry : Registry) {text : String}
    (h : ∀ r, Range.find text = .ok (some r) → g.AgreesOn g' r) :
    evaluate registry g' text = evaluate registry g text := by
  have hcompute : compute registry g' text = compute registry g text := by
    rw [compute, compute, rangeOf]
    rcases hfind : Range.find text with e | _ | r
    · rfl
    · rfl
    · simp only [bind, Except.bind, rangeValues_eq_of_agreesOn (h r hfind)]
  rw [evaluate, evaluate, hcompute]

/-- A formula that does not read a cell evaluates as before when the cell is written. -/
theorem evaluate_put (registry : Registry) {row col : Nat} (hrow : row < g.rows)
    (hcol : col < g.cols) {text : String}
    (hout : ∀ r, Range.find text = .ok (some r) → (⟨row, col⟩ : CellRef) ∉ r) (c : Cell) :
    evaluate registry (g.put row col c) text = evaluate registry g text :=
  evaluate_eq_of_agreesOn registry fun r hr => Grid.agreesOn_put hrow hcol (hout r hr) c

end Formula

end Spreadsheet

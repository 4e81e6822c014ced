import Spreadsheet.Proofs.Influence
import Spreadsheet.Proofs.Invariant

/-!
When the value of a formula cell goes stale.

A formula is evaluated when it is applied, and its value stays in the cell from then on.  Since an
evaluation reads nothing but the values in the range of its formula, the value stays what the
formula evaluates to as long as these values stay (`IsCurrent.of_agreesOn`): after any writes of
cells outside of the range (`Grid.agreesOn_afterWrites`), and after any operations of the editor
until one of them changes a value in the range (`IsCurrent.exists_change`).
`Editor.isCurrent_until_range_changes` joins this with what applying a formula writes.
-/

namespace Spreadsheet

open Formula (Registry)

/-- A write of a cell at a place, which need not be in the grid. -/
structure Write where
  place : CellRef
  cell : Cell

namespace Grid

variable {g g' g'' : Grid} {r : Range} {writes : List Write}

theorem AgreesOn.refl (g : Grid) (r : Range) : g.AgreesOn g r :=
  ⟨rfl, rfl, fun _ _ _ => rfl⟩

theorem AgreesOn.trans (h : g.AgreesOn g' r) (h' : g'.AgreesOn g'' r) : g.AgreesOn g'' r :=
  ⟨h'.rows.trans h.rows, h'.cols.trans h.cols,
    fun row col hmem => (h'.value row col hmem).trans (h.value row col hmem)⟩

/-- The grid after a write.  A write outside of the grid is refused and changes nothing. -/
def afterWrite (g : Grid) (w : Write) : Grid :=
  match g.set w.place.row w.place.col w.cell with
  | .ok g' => g'
  | .error _ => g

/-- The grid after writes one after the other. -/
def afterWrites (g : Grid) (writes : List Write) : Grid :=
  writes.foldl afterWrite g

/-- A place of the grid is given by numbers of rows and columns. -/
theorem InBounds.exists_nat {place : CellRef} (h : g.InBounds place.row place.col) :
    ∃ row col : Nat, place = ⟨row, col⟩ ∧ row < g.rows ∧ col < g.cols := by
  obtain ⟨row, col⟩ := place
  obtain ⟨⟨hrow, hrows⟩, hcol, hcols⟩ := h
  obtain ⟨i, rfl⟩ := Int.eq_ofNat_of_zero_le hrow
  obtain ⟨j, rfl⟩ := Int.eq_ofNat_of_zero_le hcol
  exact ⟨i, j, rfl, Int.ofNat_lt.mp hrows, Int.ofNat_lt.mp hcols⟩

/-- A write does nothing, or it puts its cell at its place in the grid. -/
theorem afterWrite_cases (g : Grid) (w : Write) :
    g.afterWrite w = g ∨
    ∃ row col : Nat, w.place = ⟨row, col⟩ ∧ row < g.rows ∧ col < g.cols ∧
      g.afterWrite w = g.put row col w.cell := by
  rw [afterWrite]
  cases hset : g.set w.place.row w.place.col w.cell with
  | error e => exact .inl rfl
  | ok g' =>
    obtain ⟨hin, rfl⟩ := (g.set_eq_ok_iff g' _ _ _).mp hset
    obtain ⟨row, col, hplace, hrow, hcol⟩ := hin.exists_nat
    rw [hplace]
    exact .inr ⟨row, col, rfl, hrow, hcol, rfl⟩

theorem agreesOn_afterWrite {w : Write} (hout : w.place ∉ r) :
    g.AgreesOn (g.afterWrite w) r := by
  rcases g.afterWrite_cases w with hsame | ⟨row, col, hplace, hrow, hcol, hput⟩
  · rw [hsame]
    exact .refl g r
  · rw [hplace] at hout
    rw [hput]
    exact agreesOn_put hrow hcol hout w.cell

theorem cellAt_afterWrite {row col : Nat} {w : Write} {c : Cell} (hheld : g.cellAt row col = c)
    (hkeep : w.place = ⟨row, col⟩ → w.cell = c) : (g.afterWrite w).cellAt row col = c := by
  rcases g.afterWrite_cases w with hsame | ⟨i, j, hplace, hrow, hcol, hput⟩
  · rw [hsame]
    exact hheld
  · rw [hput, g.cellAt_put hrow hcol]
    split
    · next heq => exact hkeep (by rw [hplace, heq.1, heq.2])
    · exact hheld

/-- Writes outside of a range leave the range as it was. -/
theorem agreesOn_afterWrites (hout : ∀ w ∈ writes, w.place ∉ r) :
    g.AgreesOn (g.afterWrites writes) r := by
  induction writes generalizing g with
  | nil => exact .refl g r
  | cons w writes ih =>
    have hfirst : g.AgreesOn (g.afterWrite w) r := agreesOn_afterWrite (hout w List.mem_cons_self)
    exact hfirst.trans (ih fun w' hw' => hout w' (List.mem_cons_of_mem w hw'))

/-- Writes that put nothing else at a place leave its cell. -/
theorem cellAt_afterWrites {row col : Nat} {c : Cell} (hheld : g.cellAt row col = c)
    (hkeep : ∀ w ∈ writes, w.place = ⟨row, col⟩ → w.cell = c) :
    (g.afterWrites writes).cellAt row col = c := by
  induction writes generalizing g with
  | nil => exact hheld
  | cons w writes ih =>
    have hfirst : (g.afterWrite w).cellAt row col = c :=
      cellAt_afterWrite hheld (hkeep w List.mem_cons_self)
    exact ih hfirst fun w' hw' => hkeep w' (List.mem_cons_of_mem w hw')

end Grid

namespace IsCurrent

variable {registry : Registry} {g g' : Grid} {entry : CellRef × Cell}

/-- A cell that shows what its formula evaluates to does so on every grid with the same values in
the range. -/
theorem of_agreesOn (h : IsCurrent registry g entry)
    (hagrees : ∀ r, Range.find entry.2.formula = .ok (some r) → g.AgreesOn g' r) :
    IsCurrent registry g' entry := by
  obtain ⟨outcome, heval, hdisplay⟩ := h
  refine ⟨outcome, ?_, hdisplay⟩
  rw [Formula.evaluate_eq_of_agreesOn registry hagrees]
  exact heval

/-- On grids of one size, only another value in the range can make it show something else. -/
theorem exists_value_ne (h : IsCurrent registry g entry) (hrows : g'.rows = g.rows)
    (hcols : g'.cols = g.cols) (hstale : ¬IsCurrent registry g' entry) :
    ∃ r, Range.find entry.2.formula = .ok (some r) ∧ ∃ row col : Nat,
      (⟨row, col⟩ : CellRef) ∈ r ∧ (g'.cellAt row col).value ≠ (g.cellAt row col).value := by
  have hne : Formula.evaluate registry g' entry.2.formula ≠
      Formula.evaluate registry g entry.2.formula := by
    intro heq
    obtain ⟨outcome, heval, hdisplay⟩ := h
    exact hstale ⟨outcome, heq.trans heval, hdisplay⟩
  exact Formula.exists_mem_of_evaluate_ne hrows hcols hne

/-- In a run of operations after which the cell is stale, one of them changed a value in the range
of its formula. -/
theorem exists_change {s : Session} {operations : List Operation}
    (h : IsCurrent s.editor.registry s.editor.grid entry)
    (hstale : ¬IsCurrent (s.run operations).editor.registry (s.run operations).editor.grid entry) :
    ∃ before operation after r, operations = before ++ operation :: after ∧
      Range.find entry.2.formula = .ok (some r) ∧ ∃ row col : Nat, (⟨row, col⟩ : CellRef) ∈ r ∧
        ((operation.perform (s.run before)).2.editor.grid.cellAt row col).value ≠
          ((s.run before).editor.grid.cellAt row col).value := by
  induction operations generalizing s with
  | nil => exact absurd h hstale
  | cons operation operations ih =>
    have hkeeps := operation.keeps_perform s
    by_cases hnext : IsCurrent (operation.perform s).2.editor.registry
        (operation.perform s).2.editor.grid entry
    · -- The change comes later.
      obtain ⟨before, later, after, r, rfl, hfind, hchange⟩ := ih hnext hstale
      exact ⟨operation :: before, later, after, r, rfl, hfind, hchange⟩
    · rw [hkeeps.registry] at hnext
      obtain ⟨r, hfind, hchange⟩ := h.exists_value_ne hkeeps.rows hkeeps.cols hnext
      exact ⟨[], operation, operations, r, rfl, hfind, hchange⟩

end IsCurrent

namespace Editor

variable {s t : Session} {target : CellRef} {c : Cell}

/-- Applying a formula writes it with its value, which is then what it evaluates to, if the cell is
not in its own range. -/
theorem isCurrent_of_apply (happly : Editor.apply s = (.ok (some c), t))
    (hactive : s.editor.selection.active = some target)
    (hformula : Formula.IsFormula s.editor.bar)
    (hout : ∀ r, Range.find s.editor.bar = .ok (some r) → target ∉ r) :
    c.formula = s.editor.bar ∧ IsCurrent t.editor.registry t.editor.grid (target, c) ∧
      ∃ row col : Nat, target = ⟨row, col⟩ ∧ t.editor.grid.cellAt row col = c := by
  rcases apply_eq_ok happly with ⟨_, hnone, _⟩ | ⟨target', written, u, hactive', hcell, hwrite, hc⟩
  · cases hnone
  rw [hactive] at hactive'
  cases hactive'
  cases hc
  rw [cellOf_apply, if_pos hformula] at hcell
  cases heval : Formula.evaluate s.editor.registry s.editor.grid s.editor.bar with
  | error e =>
    rw [heval] at hcell
    cases hcell
  | ok outcome =>
    rw [heval] at hcell
    cases hcell
    rw [write_apply] at hwrite
    obtain ⟨hin, -, rfl⟩ := Action.ite_eq_ok hwrite
    obtain ⟨row, col, rfl, hrow, hcol⟩ := hin.exists_nat
    refine ⟨rfl, ⟨outcome, ?_, rfl⟩, row, col, rfl, ?_⟩
    · -- The cell is outside of the range, so writing it does not matter.
      exact (Formula.evaluate_put s.editor.registry hrow hcol hout _).trans heval
    · exact (s.editor.grid.cellAt_put hrow hcol _ _ _).trans (if_pos ⟨rfl, rfl⟩)

/-- **A value goes stale only through its range.**  Whatever the reducers are, grids of one size
that show the same values in the range which is found in a text evaluate it alike: to the same
number, the same failure, or the same interruption.  So when a formula is applied to a cell outside
of its own range, the cell goes on to show what the formula evaluates to: after any writes that
avoid the range and leave the cell, and after any operations of the editor, unless one of them
changes a value in the range. -/
theorem isCurrent_until_range_changes :
    (∀ (registry : Registry) (text : String) (g g' : Grid),
      g'.rows = g.rows → g'.cols = g.cols →
      (∀ r, Range.find text = .ok (some r) → ∀ row col : Nat, (⟨row, col⟩ : CellRef) ∈ r →
        (g'.cellAt row col).value = (g.cellAt row col).value) →
      Formula.evaluate registry g' text = Formula.evaluate registry g text) ∧
    ∀ (s t : Session) (target : CellRef) (c : Cell), Editor.apply s = (.ok (some c), t) →
      s.editor.selection.active = some target → Formula.IsFormula s.editor.bar →
      (∀ r, Range.find s.editor.bar = .ok (some r) → target ∉ r) →
      c.formula = s.editor.bar ∧
      (∀ writes : List Write,
        (∀ r, Range.find s.editor.bar = .ok (some r) → ∀ w ∈ writes, w.place ∉ r) →
        (∀ w ∈ writes, w.place = target → w.cell = c) →
        (t.editor.grid.afterWrites writes).cellAt target.row.toNat target.col.toNat = c ∧
          IsCurrent t.editor.registry (t.editor.grid.afterWrites writes) (target, c)) ∧
      ∀ operations : List Operation,
        ¬IsCurrent (t.run operations).editor.registry (t.run operations).editor.grid (target, c) →
        ∃ before operation after r, operations = before ++ operation :: after ∧
          Range.find s.editor.bar = .ok (some r) ∧ ∃ row col : Nat, (⟨row, col⟩ : CellRef) ∈ r ∧
            ((operation.perform (t.run before)).2.editor.grid.cellAt row col).value ≠
              ((t.run before).editor.grid.cellAt row col).value := by
  refine ⟨fun registry text g g' hrows hcols hvalues => ?_, ?_⟩
  · exact Formula.evaluate_eq_of_agreesOn registry fun r hr => ⟨hrows, hcols, hvalues r hr⟩
  · intro s t target c happly hactive hformula hout
    obtain ⟨htext, hcurrent, row, col, rfl, hheld⟩ :=
      isCurrent_of_apply happly hactive hformula hout
    rw [← htext]
    refine ⟨rfl, fun writes havoid hkeep => ⟨?_, ?_⟩, fun operations hstale => ?_⟩
    · exact Grid.cellAt_afterWrites hheld hkeep
    · exact hcurrent.of_agreesOn fun r hr => Grid.agreesOn_afterWrites (havoid r hr)
    · exact hcurrent.exists_change hstale

/-- An editor whose last cell is active, with a formula over the two cells before it in the bar. -/
def summing : Session where
  editor := { circle.editor with
    selection := { active := some ⟨0, 3⟩ }
    bar := "=SUM(B1:C1)" }
  host := ⟨.memory {}, [], .least⟩

theorem find_summing : Range.find summing.editor.bar =
    .ok (some ⟨⟨0, 1⟩, ⟨0, 2⟩, Int.le_refl 0, by decide⟩) :=
  rfl

theorem apply_summing : ∃ t, Editor.apply summing = (.ok (some ⟨"0", "=SUM(B1:C1)"⟩), t) := by
  have hdisplay : (Formula.Outcome.number (Formula.Reducer.sumOf
      [Number.ofText "0", Number.ofText "0"])).display = "0" := by decide +kernel
  have heval : Formula.evaluate summing.editor.registry summing.editor.grid "=SUM(B1:C1)" =
      .ok (.number (Formula.Reducer.sumOf [Number.ofText "0", Number.ofText "0"])) :=
    evaluate_circle (by decide) (by decide) (by rfl) (by rfl)
  have hcell : cellOf summing.editor.bar summing =
      (.ok ⟨"0", "=SUM(B1:C1)"⟩, summing.logged []) := by
    rw [cellOf_apply, if_pos (by decide), show summing.editor.bar = "=SUM(B1:C1)" from rfl, heval,
      ← hdisplay]
    rfl
  have hin : (summing.logged []).editor.grid.InBounds 0 3 := by decide
  rw [apply_apply, hcell, show summing.editor.selection.active = some ⟨0, 3⟩ from rfl]
  simp only [write_apply, if_pos hin]
  exact ⟨_, rfl⟩

/-- The sum stays current when a cell beside its range is written, and one outside of the grid. -/
theorem isCurrent_until_range_changes_summing :
    ∃ t, Editor.apply summing = (.ok (some ⟨"0", "=SUM(B1:C1)"⟩), t) ∧
      summing.editor.selection.active = some ⟨0, 3⟩ ∧ Formula.IsFormula summing.editor.bar ∧
      (∀ r, Range.find summing.editor.bar = .ok (some r) → (⟨0, 3⟩ : CellRef) ∉ r) ∧
      IsCurrent t.editor.registry
        (t.editor.grid.afterWrites [⟨⟨0, 0⟩, ⟨"7", ""⟩⟩, ⟨⟨-1, 1⟩, ⟨"8", ""⟩⟩])
        (⟨0, 3⟩, ⟨"0", "=SUM(B1:C1)"⟩) := by
  obtain ⟨t, happly⟩ := apply_summing
  have hout : ∀ r, Range.find summing.editor.bar = .ok (some r) → (⟨0, 3⟩ : CellRef) ∉ r := by
    intro r hr
    rw [find_summing] at hr
    cases hr
    decide
  have hactive : summing.editor.selection.active = some ⟨0, 3⟩ := rfl
  have hformula : Formula.IsFormula summing.editor.bar := by decide
  obtain ⟨-, hwrites, -⟩ :=
    isCurrent_until_range_changes.2 summing t ⟨0, 3⟩ _ happly hactive hformula hout
  refine ⟨t, happly, hactive, hformula, hout, (hwrites _ (fun r hr => ?_) ?_).2⟩
  · rw [find_summing] at hr
    cases hr
    decide
  · decide

end Editor

end Spreadsheet

import Mathlib.Logic.Relation
import Mathlib.Tactic.ByContra
import Spreadsheet.Proofs.Convergence

/-!
What a recalculation changes after a write.

On two grids of one size a formula has different outcomes only if it reads a cell whose values
differ (`Formula.exists_mem_of_evaluate_ne`).  So when one cell is written in a grid whose formula
cells are all current, the sweep after it changes a cell only if that one reads the written cell, or
a cell which the sweep has changed before (`Sweep.Traced.visit`).  By induction on the sweep, a
chain of reads leads from every changed cell to the written one (`Sweep.Traced.run`), and
`Editor.recalculate_after_setLiteral` says this of an editor.  The induction is on the sweep and not
on the chains, so formulas may well read each other in a circle.
-/

namespace Spreadsheet

open Formula (LetsOut Outcome Reducer Registry)
open Relation (TransGen)

/-- A formula whose outcomes on two grids of one size differ reads a cell whose values differ. -/
theorem Formula.exists_mem_of_evaluate_ne {registry : Registry} {g g' : Grid} {text : String}
    (hrows : g'.rows = g.rows) (hcols : g'.cols = g.cols)
    (hne : evaluate registry g' text ≠ evaluate registry g text) :
    ∃ r, Range.find text = .ok (some r) ∧ ∃ row col : Nat, (⟨row, col⟩ : CellRef) ∈ r ∧
      (g'.cellAt row col).value ≠ (g.cellAt row col).value := by
  by_contra hnone
  apply hne
  apply evaluate_eq_of_agreesOn registry
  intro r hr
  refine ⟨hrows, hcols, fun row col hmem => ?_⟩
  by_contra hvalue
  exact hnone ⟨r, hr, row, col, hmem, hvalue⟩

namespace Grid

variable {registry : Registry} {g : Grid} {row col : Nat}

/-- The grid `g` differs from `g₀` in the value at the place `p` at most, and all its formula cells
show what their formulas evaluate to on `g₀`. -/
structure IsDisturbed (registry : Registry) (g g₀ : Grid) (p : CellRef) : Prop where
  rows : g.rows = g₀.rows
  cols : g.cols = g₀.cols
  value : ∀ row col : Nat, (g.cellAt row col).value ≠ (g₀.cellAt row col).value →
    (⟨row, col⟩ : CellRef) = p
  current : ∀ entry ∈ g.formulaCells, IsCurrent registry g₀ entry

/-- Writing a literal makes no formula cell, and leaves those at the other places. -/
theorem mem_formulaCells_of_put (hrow : row < g.rows) (hcol : col < g.cols) {text : String}
    {entry : CellRef × Cell} (hentry : entry ∈ (g.put row col ⟨text, ""⟩).formulaCells) :
    entry ∈ g.formulaCells := by
  obtain ⟨i, j, hin, hformula, rfl⟩ := (Grid.mem_formulaCells_iff _ _).mp hentry
  rw [g.cellAt_put hrow hcol] at hformula ⊢
  by_cases hplace : i = row ∧ j = col
  · rw [if_pos hplace] at hformula
    exact absurd rfl hformula
  · rw [if_neg hplace] at hformula ⊢
    exact (g.mem_formulaCells_iff _).mpr ⟨i, j, hin, hformula, rfl⟩

theorem isDisturbed_put (hcurrent : ∀ entry ∈ g.formulaCells, IsCurrent registry g entry)
    (hrow : row < g.rows) (hcol : col < g.cols) (text : String) :
    IsDisturbed registry (g.put row col ⟨text, ""⟩) g ⟨row, col⟩ := by
  refine ⟨rfl, rfl, fun i j hvalue => ?_, fun entry hentry => ?_⟩
  · by_contra hplace
    apply hvalue
    rw [g.cellAt_put hrow hcol, if_neg]
    rintro ⟨rfl, rfl⟩
    exact hplace rfl
  · exact hcurrent entry (mem_formulaCells_of_put hrow hcol hentry)

end Grid

namespace Sweep

/-- A visit that finds another outcome than the cell shows writes it. -/
theorem visit_of_display_ne {registry : Registry} (entry : CellRef × Cell) (w : Sweep)
    {outcome : Outcome} {text : String}
    (heval : Formula.evaluate registry w.grid entry.2.formula = .ok outcome)
    (hdisplay : outcome.display = text) (hne : text ≠ entry.2.value) :
    ∃ records, visit registry entry w = (.ok (), {
      grid := w.grid.put entry.1.row.toNat entry.1.col.toNat ⟨text, entry.2.formula⟩
      changed := entry.1 :: w.changed
      records := records }) := by
  rw [visit, heval]
  simp only [hdisplay, if_neg hne]
  exact ⟨_, rfl⟩

variable {registry : Registry} {g₀ g : Grid} {p : CellRef} {met entries : List (CellRef × Cell)}
  {w : Sweep}

/-- From every cell that is reported as changed a chain of reads leads to the place `p`. -/
def Traced (g : Grid) (p : CellRef) (w : Sweep) : Prop :=
  ∀ q ∈ w.changed, TransGen g.Reads q p

/-- A visit that changes a cell has found another value in its range than there was when the cell
was current: at the place of the write, or at a cell that was changed before. -/
theorem Traced.visit (h : Traced g p w) (htracks : Tracks g met w)
    (hdisturbed : g.IsDisturbed registry g₀ p) {entry : CellRef × Cell}
    (hentry : entry ∈ g.formulaCells) :
    Traced g p (Sweep.visit registry entry w).2 := by
  rcases visit_cases registry entry w with ⟨e, _, hvisit⟩ | ⟨records, _, hvisit⟩ |
    ⟨outcome, records, heval, hne, hvisit⟩
  · rw [hvisit]
    exact h
  · rw [hvisit]
    exact h
  · obtain ⟨outcome₀, heval₀, hdisplay⟩ := hdisturbed.current entry hentry
    have hdiffer : Formula.evaluate registry w.grid entry.2.formula ≠
        Formula.evaluate registry g₀ entry.2.formula := by
      intro heq
      rw [heval, heval₀] at heq
      cases heq
      exact hne hdisplay
    obtain ⟨r, hr, row, col, hmem, hvalue⟩ := Formula.exists_mem_of_evaluate_ne
      (htracks.rows.trans hdisturbed.rows) (htracks.cols.trans hdisturbed.cols) hdiffer
    have hreads : g.Reads entry.1 ⟨row, col⟩ := ⟨entry.2, r, hentry, hr, hmem⟩
    have hchain : TransGen g.Reads entry.1 p := by
      by_cases hchanged : (⟨row, col⟩ : CellRef) ∈ w.changed
      · exact .head hreads (h _ hchanged)
      · -- The sweep has left this cell alone, so it is the written one.
        have hsame := Classical.not_not.mp (mt (htracks.value row col).mp hchanged)
        rw [hsame] at hvalue
        rw [← hdisturbed.value row col hvalue]
        exact .single hreads
    rw [hvisit]
    intro q hq
    rcases List.mem_cons.mp hq with rfl | hq
    · exact hchain
    · exact h q hq

/-- A sweep over all formula cells. -/
theorem Traced.run {w' : Sweep} (h : Traced g p w) (htracks : Tracks g [] w)
    (hdisturbed : g.IsDisturbed registry g₀ p)
    (hrun : Sweep.run registry g.formulaCells w = (.ok (), w')) :
    Traced g p w' := by
  have hend : Tracks g g.formulaCells w' ∧ Traced g p w' := by
    refine run_induction (P := fun met w => Tracks g met w ∧ Traced g p w) ?_
      (List.nil_append _).symm ⟨htracks, h⟩ hrun
    rintro met entry rest w w' hcells ⟨htracks, htraced⟩ hvisit
    have hentry : entry ∈ g.formulaCells := by
      rw [hcells]
      exact List.mem_append_right met List.mem_cons_self
    have hnext := htraced.visit htracks hdisturbed hentry
    rw [hvisit] at hnext
    exact ⟨htracks.visit_next hcells hvisit, hnext⟩
  exact hend.2

end Sweep

namespace Editor

/-- Where the formulas of a grid were current before a write, a recalculation after it fails only
with what a reducer lets out of an evaluation. -/
theorem letsOut_of_recalculate_eq_error {s u : Session} {g₀ : Grid} {p : CellRef} {fault : Fault}
    (hdisturbed : s.editor.grid.IsDisturbed s.editor.registry g₀ p)
    (h : recalculate s = (.error fault, u)) :
    ∃ entry ∈ s.editor.grid.formulaCells, ∃ g failure,
      LetsOut s.editor.registry g entry.2.formula failure ∧ fault = .reducer failure := by
  obtain ⟨before, w, i, ⟨entry, after, hcells, _, heval⟩, rfl⟩ :=
    exists_stops_of_recalculate_eq_error h
  have hentry : entry ∈ s.editor.grid.formulaCells := by
    rw [hcells]
    exact List.mem_append_right before List.mem_cons_self
  have hinterrupts := (Formula.evaluate_eq_error_iff _ _ _ i).mp heval
  cases i with
  | digits e =>
    -- It had an outcome before, so its row numbers can be read.
    obtain ⟨outcome, heval₀, _⟩ := hdisturbed.current entry hentry
    exact absurd ⟨e.digits, hinterrupts⟩ (Formula.isReadable_of_evaluate_eq_ok heval₀)
  | reducer failure => exact ⟨entry, hentry, w.grid, failure, hinterrupts, rfl⟩

/-- **A recalculation after a write changes only what depends on the written cell.**  If all formula
cells were current before a literal is put into a cell, the write returns, and the recalculation
fails only with what a reducer lets out of an evaluation.  When it returns, each cell that is
reported holds the formula that it held, and a chain of one read or more leads from it to the
written cell.  Every other cell, the written one apart, is as it was. -/
theorem recalculate_after_setLiteral {s : Session} {row col : Int}
    (hcurrent : ∀ entry ∈ s.editor.grid.formulaCells,
      IsCurrent s.editor.registry s.editor.grid entry)
    (hin : s.editor.grid.InBounds row col) (text : String) :
    ∃ t, setLiteral row col text s = (.ok ⟨text, ""⟩, t) ∧
      (∀ fault u, recalculate t = (.error fault, u) →
        ∃ entry ∈ t.editor.grid.formulaCells, ∃ g failure,
          LetsOut t.editor.registry g entry.2.formula failure ∧ fault = .reducer failure) ∧
      ∀ refs u, recalculate t = (.ok refs, u) →
        (∀ q ∈ refs, TransGen t.editor.grid.Reads q ⟨row, col⟩ ∧
          ∃ c c', (q, c) ∈ s.editor.grid.formulaCells ∧ (q, c') ∈ u.editor.grid.formulaCells ∧
            c'.formula = c.formula) ∧
        ∀ i j : Nat, (⟨i, j⟩ : CellRef) ≠ ⟨row, col⟩ → (⟨i, j⟩ : CellRef) ∉ refs →
          u.editor.grid.cellAt i j = s.editor.grid.cellAt i j := by
  obtain ⟨row, rfl⟩ := Int.eq_ofNat_of_zero_le hin.1.1
  obtain ⟨col, rfl⟩ := Int.eq_ofNat_of_zero_le hin.2.1
  have hrow : row < s.editor.grid.rows := Int.ofNat_lt.mp hin.1.2
  have hcol : col < s.editor.grid.cols := Int.ofNat_lt.mp hin.2.2
  obtain ⟨t, hwrite, hgrid, hregistry⟩ : ∃ t, setLiteral row col text s = (.ok ⟨text, ""⟩, t) ∧
      t.editor.grid = s.editor.grid.put row col ⟨text, ""⟩ ∧
      t.editor.registry = s.editor.registry := by
    rw [setLiteral, write_apply, if_pos hin]
    exact ⟨_, rfl, rfl, rfl⟩
  have hdisturbed : t.editor.grid.IsDisturbed t.editor.registry s.editor.grid ⟨row, col⟩ := by
    rw [hgrid, hregistry]
    exact Grid.isDisturbed_put hcurrent hrow hcol text
  refine ⟨t, hwrite, fun fault u hfails => letsOut_of_recalculate_eq_error hdisturbed hfails,
    fun refs u hrecalculate => ?_⟩
  obtain ⟨w, hsweep, rfl, hgrid', _⟩ := exists_sweep_of_recalculate_eq_ok hrecalculate
  have htracks := t.editor.tracks_sweep
  rw [hsweep] at htracks
  have htraced : Sweep.Traced t.editor.grid ⟨row, col⟩ w :=
    Sweep.Traced.run (fun q hq => absurd hq List.not_mem_nil) (Sweep.Tracks.start _) hdisturbed
      hsweep
  refine ⟨fun q hq => ?_, fun i j hplace hkept => ?_⟩
  · obtain ⟨⟨q, c⟩, hentry, rfl⟩ := List.mem_map.mp (htracks.changed.subset hq)
    obtain ⟨c', hentry', hformula⟩ := htracks.sameFormulas.exists_mem hentry
    refine ⟨htraced q (List.mem_reverse.mp hq), c, c', ?_, ?_, hformula⟩
    · rw [hgrid] at hentry
      exact Grid.mem_formulaCells_of_put hrow hcol hentry
    · rw [hgrid']
      exact hentry'
  · rw [hgrid', htracks.cellAt_eq_of_not_mem fun hmem => hkept (List.mem_reverse.mpr hmem), hgrid,
      s.editor.grid.cellAt_put hrow hcol, if_neg]
    rintro ⟨rfl, rfl⟩
    exact hplace rfl

/-- Two formulas that read each other, and one of them a number too.  No formula reads the last
cell. -/
def circle : Session where
  editor := {
    grid := ⟨1, 4, [[⟨"0", "=SUM(B1:C1)"⟩, ⟨"0", "=SUM(A1:A1)"⟩, ⟨"0", ""⟩, ⟨"5", ""⟩]],
      Nat.one_pos, by decide, by decide, by decide⟩
    history := { limit := none }
    registry := ⟨[("SUM", Reducer.sum)]⟩
    storageKey := "spreadsheet" }
  host := ⟨.memory {}, [], .least⟩

theorem evaluate_circle {g : Grid} {text : String} {r : Range} {values : List Float}
    (hformula : Formula.IsFormula text) (hcalls : Registry.Calls text "SUM")
    (hfind : Range.find text = .ok (some r)) (hvalues : Formula.rangeValues g r = .ok values) :
    Formula.evaluate circle.editor.registry g text = .ok (.number (Reducer.sumOf values)) := by
  have hcalled : circle.editor.registry.called? text = some ("SUM", Reducer.sum) := by
    simp [circle, Registry.called?, hcalls]
  rw [Formula.evaluate, if_pos hformula, Formula.compute, Formula.rangeOf, hfind]
  simp only [bind, Except.bind, hvalues, Formula.applyCalled, hcalled]
  rfl

theorem tellsFailures_circle : circle.editor.registry.TellsFailures := by
  intro entry hentry values e failure hcall
  rw [List.mem_singleton.mp hentry] at hcall
  cases hcall

theorem isCurrent_circle : ∀ entry ∈ circle.editor.grid.formulaCells,
    IsCurrent circle.editor.registry circle.editor.grid entry := by
  intro entry hentry
  have hcells : circle.editor.grid.formulaCells =
      [(⟨0, 0⟩, ⟨"0", "=SUM(B1:C1)"⟩), (⟨0, 1⟩, ⟨"0", "=SUM(A1:A1)"⟩)] := rfl
  rw [hcells, List.mem_cons, List.mem_singleton] at hentry
  rcases hentry with rfl | rfl
  · exact ⟨_, evaluate_circle (by decide) (by decide) (by rfl) (by rfl), by decide +kernel⟩
  · exact ⟨_, evaluate_circle (by decide) (by decide) (by rfl) (by rfl), by decide +kernel⟩

/-- When the number is written, the sweep changes both formulas. -/
theorem changed_circle {e : Editor} (hgrid : e.grid = circle.editor.grid.put 0 2 ⟨"1", ""⟩)
    (hregistry : e.registry = circle.editor.registry) :
    e.sweep.2.changed = [⟨0, 1⟩, ⟨0, 0⟩] := by
  have hsum : (Outcome.number (Reducer.sumOf [Number.ofText "0", Number.ofText "1"])).display =
      "1" := by decide +kernel
  have hsum' : (Outcome.number (Reducer.sumOf [Number.ofText "1"])).display = "1" := by
    decide +kernel
  obtain ⟨records, hfirst⟩ := Sweep.visit_of_display_ne (⟨0, 0⟩, ⟨"0", "=SUM(B1:C1)"⟩)
    { grid := circle.editor.grid.put 0 2 ⟨"1", ""⟩ }
    (evaluate_circle (by decide) (by decide) (by rfl) (by rfl)) hsum (by decide)
  obtain ⟨records', hsecond⟩ := Sweep.visit_of_display_ne (⟨0, 1⟩, ⟨"0", "=SUM(A1:A1)"⟩)
    ⟨(circle.editor.grid.put 0 2 ⟨"1", ""⟩).put 0 0 ⟨"1", "=SUM(B1:C1)"⟩, [⟨0, 0⟩], records⟩
    (evaluate_circle (by decide) (by decide) (by rfl) (by rfl)) hsum' (by decide)
  have hcells : (circle.editor.grid.put 0 2 ⟨"1", ""⟩).formulaCells =
      [(⟨0, 0⟩, ⟨"0", "=SUM(B1:C1)"⟩), (⟨0, 1⟩, ⟨"0", "=SUM(A1:A1)"⟩)] := rfl
  obtain ⟨w, hrun, hchanged⟩ : ∃ w, Sweep.run circle.editor.registry
      [(⟨0, 0⟩, ⟨"0", "=SUM(B1:C1)"⟩), (⟨0, 1⟩, ⟨"0", "=SUM(A1:A1)"⟩)]
      { grid := circle.editor.grid.put 0 2 ⟨"1", ""⟩ } = (.ok (), w) ∧
        w.changed = [⟨0, 1⟩, ⟨0, 0⟩] :=
    ⟨_, (Sweep.run_cons_of_ok hfirst).trans (Sweep.run_cons_of_ok hsecond), rfl⟩
  rw [sweep, hgrid, hregistry, hcells, hrun]
  exact hchanged

/-- Both formulas are reported.  From each a chain leads to the number, although the second one does
not read it. -/
theorem recalculate_after_setLiteral_circle :
    ((∀ entry ∈ circle.editor.grid.formulaCells,
      IsCurrent circle.editor.registry circle.editor.grid entry) ∧
        circle.editor.grid.InBounds 0 2) ∧
    ∃ t u, setLiteral 0 2 "1" circle = (.ok ⟨"1", ""⟩, t) ∧
      recalculate t = (.ok [⟨0, 0⟩, ⟨0, 1⟩], u) ∧
      TransGen t.editor.grid.Reads ⟨0, 0⟩ ⟨0, 2⟩ ∧ TransGen t.editor.grid.Reads ⟨0, 1⟩ ⟨0, 2⟩ := by
  have hin : circle.editor.grid.InBounds 0 2 := by decide
  obtain ⟨t, hwrite, hfails, hreturns⟩ := recalculate_after_setLiteral isCurrent_circle hin "1"
  obtain ⟨hgrid, hregistry⟩ : t.editor.grid = circle.editor.grid.put 0 2 ⟨"1", ""⟩ ∧
      t.editor.registry = circle.editor.registry := by
    cases hwrite
    exact ⟨rfl, rfl⟩
  -- The sum tells its failures, so the recalculation returns.
  obtain ⟨refs, u, hrecalculate⟩ : ∃ refs u, recalculate t = (.ok refs, u) := by
    rcases hrecalculate : recalculate t with ⟨fault | refs, u⟩
    · obtain ⟨entry, _, g, failure, hout, _⟩ := hfails fault u hrecalculate
      rw [hregistry] at hout
      exact absurd hout (Formula.not_letsOut_of_tells tellsFailures_circle g _ failure)
    · exact ⟨refs, u, rfl⟩
  have hreported := (hreturns refs u hrecalculate).1
  obtain ⟨w, hsweep, rfl, _⟩ := exists_sweep_of_recalculate_eq_ok hrecalculate
  have hchanged := changed_circle hgrid hregistry
  rw [hsweep] at hchanged
  rw [hchanged] at hrecalculate hreported
  exact ⟨⟨isCurrent_circle, hin⟩, t, u, hwrite, hrecalculate, (hreported _ (by simp)).1,
    (hreported _ (by simp)).1⟩

end Editor

end Spreadsheet

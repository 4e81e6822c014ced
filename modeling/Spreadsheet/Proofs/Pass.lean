import Mathlib.Data.List.Sort
import Spreadsheet.Proofs.Influence
import Spreadsheet.Proofs.WellFormed

/-!
What one recalculation computes.

The formula cells are evaluated row by row, each on the grid as the ones before it left it: with new
values before the cell and old ones from the cell on (`Grid.halfway`).  `Grid.IsPass` says this of
the grids before and after, with the list of the cells whose values differ.  The sweep makes such a
pass, by an invariant that speaks of the cells met so far (`Sweep.IsSwept.visit`,
`Sweep.IsSwept.run`), and from one grid there is no other (`Grid.IsPass.unique`), so
`Editor.recalculate_makes_pass` says all that a recalculation does.
-/

namespace Spreadsheet

open Formula (Registry IsReadable)

namespace Grid

variable {registry : Registry} {g old new new' : Grid} {refs refs' : List CellRef}

/-- The places of the formula cells are those where there is a formula. -/
theorem mem_places_iff (g : Grid) (row col : Nat) :
    (⟨row, col⟩ : CellRef) ∈ g.formulaCells.map Prod.fst ↔ (g.cellAt row col).formula ≠ "" := by
  constructor
  · intro hmem
    obtain ⟨x, hx, hplace⟩ := List.mem_map.mp hmem
    obtain ⟨i, j, _, hformula, rfl⟩ := (g.mem_formulaCells_iff x).mp hx
    obtain ⟨hi, hj⟩ := CellRef.mk.inj hplace
    rw [Int.ofNat_inj.mp hi, Int.ofNat_inj.mp hj] at hformula
    exact hformula
  · intro hformula
    -- Such a place is one of the grid.
    have hin : row < g.rows ∧ col < g.cols := by
      by_contra hout
      rw [g.cellAt_of_not_lt hout] at hformula
      exact hformula rfl
    exact List.mem_map.mpr ⟨_, (g.mem_formulaCells_iff _).mpr ⟨row, col, hin, hformula, rfl⟩, rfl⟩

/-- The grid in the middle of a pass: the formula cells before a place are new, and all other cells
are old. -/
def halfway (old new : Grid) (place : CellRef) : Grid :=
  old.fill fun row col =>
    if (old.cellAt row col).formula ≠ "" ∧ (⟨row, col⟩ : CellRef) < place then new.cellAt row col
    else old.cellAt row col

/-- Only what is before the place counts. -/
theorem halfway_congr {place : CellRef}
    (h : ∀ row col : Nat, (⟨row, col⟩ : CellRef) < place →
      new'.cellAt row col = new.cellAt row col) :
    old.halfway new' place = old.halfway new place := by
  have hcells : ∀ row col : Nat,
      (if (old.cellAt row col).formula ≠ "" ∧ (⟨row, col⟩ : CellRef) < place then
        new'.cellAt row col else old.cellAt row col) =
      if (old.cellAt row col).formula ≠ "" ∧ (⟨row, col⟩ : CellRef) < place then
        new.cellAt row col else old.cellAt row col := by
    intro row col
    by_cases hnew : (old.cellAt row col).formula ≠ "" ∧ (⟨row, col⟩ : CellRef) < place
    · rw [if_pos hnew, if_pos hnew, h row col hnew.2]
    · rw [if_neg hnew, if_neg hnew]
  rw [halfway, halfway]
  congr 1
  funext row col
  exact hcells row col

/-- The grid `new` is what one pass makes of the grid `old`, and `refs` are the cells that show
something else then. -/
structure IsPass (registry : Registry) (old new : Grid) (refs : List CellRef) : Prop where
  rows : new.rows = old.rows
  cols : new.cols = old.cols
  formula : ∀ row col, (new.cellAt row col).formula = (old.cellAt row col).formula
  literal : ∀ row col, (old.cellAt row col).formula = "" →
    new.cellAt row col = old.cellAt row col
  value : ∀ row col : Nat, (old.cellAt row col).formula ≠ "" →
    ∃ outcome, Formula.evaluate registry (old.halfway new ⟨row, col⟩)
        (old.cellAt row col).formula = .ok outcome ∧
      (new.cellAt row col).value = outcome.display
  increasing : refs.Pairwise (· < ·)
  changed : ∀ ref, ref ∈ refs ↔ ∃ row col : Nat, ref = ⟨row, col⟩ ∧
    (new.cellAt row col).value ≠ (old.cellAt row col).value

/-- The cells of a pass are determined in the order in which they are evaluated. -/
theorem IsPass.cellAt_eq (h : IsPass registry old new refs) (h' : IsPass registry old new' refs')
    (row col : Nat) : new'.cellAt row col = new.cellAt row col := by
  -- On the row, and in it on the column, from the left.
  induction row using Nat.strongRecOn generalizing col with
  | ind row ihrow =>
    induction col using Nat.strongRecOn with
    | ind col ihcol =>
      by_cases hformula : (old.cellAt row col).formula = ""
      · rw [h.literal row col hformula, h'.literal row col hformula]
      · have hbefore : ∀ i j : Nat, (⟨i, j⟩ : CellRef) < ⟨row, col⟩ →
            new'.cellAt i j = new.cellAt i j := by
          intro i j hlt
          rw [CellRef.lt_iff] at hlt
          rcases hlt with hlt | ⟨heq, hlt⟩
          · exact ihrow i (Int.ofNat_lt.mp hlt) j
          · obtain rfl : i = row := Int.ofNat_inj.mp heq
            exact ihcol j (Int.ofNat_lt.mp hlt)
        obtain ⟨outcome, heval, hvalue⟩ := h.value row col hformula
        obtain ⟨outcome', heval', hvalue'⟩ := h'.value row col hformula
        -- Both values are the outcome on the same grid.
        rw [halfway_congr hbefore, heval] at heval'
        cases heval'
        refine Cell.eq_of_value_eq (hvalue'.trans hvalue.symm) ?_
        exact (h'.formula row col).trans (h.formula row col).symm

/-- There is only one pass from a grid. -/
theorem IsPass.unique (h : IsPass registry old new refs) (h' : IsPass registry old new' refs') :
    new' = new ∧ refs' = refs := by
  have hcells := h.cellAt_eq h'
  refine ⟨eq_of_cellAt_eq (h'.rows.trans h.rows.symm) (h'.cols.trans h.cols.symm)
    fun row col _ _ => hcells row col, ?_⟩
  refine h'.increasing.eq_of_mem_iff h.increasing ?_
  intro ref
  rw [h.changed, h'.changed]
  simp only [hcells]

end Grid

namespace Sweep

variable {registry : Registry} {g : Grid} {met rest : List (CellRef × Cell)}
  {entry : CellRef × Cell} {w w' : Sweep}

/-- A sweep that has met the formula cells before one has the grid halfway to that one. -/
theorem Tracks.halfway_eq (h : Tracks g met w) (hcells : g.formulaCells = met ++ entry :: rest) :
    g.halfway w.grid entry.1 = w.grid := by
  refine Grid.eq_of_cellAt_eq h.rows.symm h.cols.symm ?_
  intro row col hrow hcol
  rw [Grid.halfway, g.cellAt_fill _ hrow hcol]
  by_cases hnew : (g.cellAt row col).formula ≠ "" ∧ (⟨row, col⟩ : CellRef) < entry.1
  · rw [if_pos hnew]
  · rw [if_neg hnew, h.cellAt_eq]
    -- All that was met is a formula cell before.
    intro hmet
    obtain ⟨x, hx, hplace⟩ := List.mem_map.mp hmet
    have hmem : x ∈ g.formulaCells := by
      rw [hcells]
      exact List.mem_append_left _ hx
    obtain ⟨i, j, _, hformula, rfl⟩ := (g.mem_formulaCells_iff x).mp hmem
    have hlt := Grid.lt_of_formulaCells_eq hcells _ hx
    obtain ⟨hi, hj⟩ := CellRef.mk.inj hplace
    obtain rfl : i = row := Int.ofNat_inj.mp hi
    obtain rfl : j = col := Int.ofNat_inj.mp hj
    exact hnew ⟨hformula, hlt⟩

/-- A visit that returns leaves the evaluated value in its cell, and every other cell as it was. -/
theorem cellAt_of_visit {row col : Nat} (hrow : row < w.grid.rows) (hcol : col < w.grid.cols)
    (hvisit : visit registry (⟨row, col⟩, w.grid.cellAt row col) w = (.ok (), w')) :
    (∃ outcome, Formula.evaluate registry w.grid (w.grid.cellAt row col).formula = .ok outcome ∧
      (w'.grid.cellAt row col).value = outcome.display) ∧
    ∀ i j : Nat, (⟨i, j⟩ : CellRef) ≠ ⟨row, col⟩ → w'.grid.cellAt i j = w.grid.cellAt i j := by
  rcases visit_cases registry (⟨row, col⟩, w.grid.cellAt row col) w with ⟨e, _, herror⟩ |
    ⟨records, ⟨outcome, heval, hdisplay⟩, hok⟩ | ⟨outcome, records, heval, _, hok⟩
  · rw [hvisit] at herror
    cases herror
  · rw [hvisit] at hok
    cases hok
    exact ⟨⟨outcome, heval, hdisplay.symm⟩, fun _ _ _ => rfl⟩
  · rw [hvisit] at hok
    cases hok
    have hput := w.grid.cellAt_put hrow hcol ⟨outcome.display, (w.grid.cellAt row col).formula⟩
    refine ⟨⟨outcome, heval, ?_⟩, ?_⟩
    · exact congrArg Cell.value ((hput row col).trans (if_pos ⟨rfl, rfl⟩))
    · intro i j hne
      refine (hput i j).trans (if_neg ?_)
      rintro ⟨rfl, rfl⟩
      exact hne rfl

/-- Every cell met so far shows what its formula evaluates to on the grid halfway to it. -/
def IsSwept (registry : Registry) (g : Grid) (met : List (CellRef × Cell)) (w : Sweep) : Prop :=
  ∀ row col : Nat, (⟨row, col⟩ : CellRef) ∈ met.map Prod.fst →
    ∃ outcome, Formula.evaluate registry (g.halfway w.grid ⟨row, col⟩)
        (g.cellAt row col).formula = .ok outcome ∧
      (w.grid.cellAt row col).value = outcome.display

/-- A visit of the next formula cell evaluates it on the grid halfway, and what was met before does
not read the new value. -/
theorem IsSwept.visit (h : IsSwept registry g met w) (htracks : Tracks g met w)
    (hcells : g.formulaCells = met ++ entry :: rest)
    (hvisit : Sweep.visit registry entry w = (.ok (), w')) :
    IsSwept registry g (met ++ [entry]) w' := by
  have hentry : entry ∈ g.formulaCells := by
    rw [hcells]
    exact List.mem_append_right met List.mem_cons_self
  have hhalfway := htracks.halfway_eq hcells
  have hbefore := Grid.lt_of_formulaCells_eq hcells
  have hnew := Grid.not_mem_of_formulaCells_eq hcells
  obtain ⟨row, col, ⟨hrow, hcol⟩, _, rfl⟩ := (g.mem_formulaCells_iff entry).mp hentry
  have hsame := htracks.cellAt_eq hnew
  rw [← hsame] at hvisit
  obtain ⟨⟨outcome, heval, hvalue⟩, hother⟩ :=
    cellAt_of_visit (htracks.rows ▸ hrow) (htracks.cols ▸ hcol) hvisit
  -- Up to the place of the visit, no grid halfway has changed.
  have hkept : ∀ place : CellRef, ¬(⟨row, col⟩ : CellRef) < place →
      g.halfway w'.grid place = g.halfway w.grid place := by
    intro place hplace
    refine Grid.halfway_congr ?_
    intro i j hlt
    refine hother i j ?_
    intro heq
    exact hplace (heq ▸ hlt)
  intro i j hmet
  rw [List.map_append, List.mem_append] at hmet
  rcases hmet with hmet | hmet
  · obtain ⟨x, hx, hplace⟩ := List.mem_map.mp hmet
    have hlt : (⟨i, j⟩ : CellRef) < ⟨row, col⟩ := hplace ▸ hbefore x hx
    rw [hkept _ (CellRef.lt_asymm hlt), hother i j (CellRef.ne_of_lt hlt)]
    exact h i j hmet
  · obtain ⟨hi, hj⟩ := CellRef.mk.inj (List.mem_singleton.mp hmet)
    obtain rfl : i = row := Int.ofNat_inj.mp hi
    obtain rfl : j = col := Int.ofNat_inj.mp hj
    rw [hkept _ (CellRef.lt_irrefl _), hhalfway, ← hsame]
    exact ⟨outcome, heval, hvalue⟩

/-- A sweep over all formula cells evaluates each of them on the grid halfway to it. -/
theorem IsSwept.run (hrun : Sweep.run registry g.formulaCells { grid := g } = (.ok (), w')) :
    Tracks g g.formulaCells w' ∧ IsSwept registry g g.formulaCells w' := by
  refine run_induction (P := fun met w => Tracks g met w ∧ IsSwept registry g met w) ?_
    (List.nil_append _).symm ⟨Tracks.start g, fun _ _ hmet => absurd hmet List.not_mem_nil⟩ hrun
  rintro met entry rest w w' hcells ⟨htracks, hswept⟩ hvisit
  exact ⟨htracks.visit_next hcells hvisit, hswept.visit htracks hcells hvisit⟩

/-- What a sweep reports as changed are the cells whose values differ, in increasing order. -/
theorem Tracks.isPass (h : Tracks g g.formulaCells w)
    (hswept : IsSwept registry g g.formulaCells w) :
    g.IsPass registry w.grid w.changed.reverse := by
  have hsorted : (g.formulaCells.map Prod.fst).Pairwise (· < ·) :=
    List.pairwise_map.mpr g.pairwise_formulaCells
  refine ⟨h.rows, h.cols, h.formula, ?_, ?_, hsorted.sublist h.changed, ?_⟩
  · intro row col hliteral
    exact h.cellAt_eq fun hmet => (g.mem_places_iff row col).mp hmet hliteral
  · intro row col hformula
    exact hswept row col ((g.mem_places_iff row col).mpr hformula)
  · intro ref
    constructor
    · intro hmem
      obtain ⟨x, hx, rfl⟩ := List.mem_map.mp (h.changed.subset hmem)
      obtain ⟨row, col, _, _, rfl⟩ := (g.mem_formulaCells_iff x).mp hx
      exact ⟨row, col, rfl, (h.value row col).mpr (List.mem_reverse.mp hmem)⟩
    · rintro ⟨row, col, rfl, hvalue⟩
      exact List.mem_reverse.mpr ((h.value row col).mp hvalue)

end Sweep

/-- A history must be able to keep something. -/
theorem History.limit_ne_zero_of_new {α : Type} {limit : Option Int} {h : History α}
    (hnew : new limit = .ok h) : h.limit ≠ some 0 := by
  cases limit with
  | none =>
    cases hnew
    exact nofun
  | some n =>
    rw [new] at hnew
    split at hnew
    · cases hnew
    · cases hnew
      intro hzero
      have hnat : n.toNat = 0 := Option.some.inj hzero
      omega

namespace Editor

variable {s t : Session} {refs : List CellRef}

theorem limit_after (e : Editor) (steps : List (Host × Operation)) :
    (e.after steps).history.limit = e.history.limit := by
  induction steps generalizing e with
  | nil => rfl
  | cons step steps ih => exact (ih _).trans (step.2.keeps_perform ⟨e, step.1⟩).limit

/-- A limit of zero is refused, so no editor ever has it. -/
theorem limit_ne_zero_of_new {settings : Settings} {registry : Registry}
    {rows cols historyLimit : Option Int} {storageKey : Option String} {e : Editor}
    (hnew : new settings registry rows cols historyLimit storageKey = .ok e)
    (steps : List (Host × Operation)) : (e.after steps).history.limit ≠ some 0 := by
  rw [limit_after]
  unfold new at hnew
  obtain ⟨g, -, hnew⟩ := exists_of_mapError_bind_eq_ok hnew
  obtain ⟨history, hhistory, hnew⟩ := exists_of_mapError_bind_eq_ok hnew
  cases hnew
  exact History.limit_ne_zero_of_new hhistory

/-- If the limit is not zero, the last state that was recorded can be gone back to. -/
theorem undo_of_record {e : Editor} {g : Grid} (hlimit : e.history.limit ≠ some 0)
    (hrows : g.rows = e.grid.rows) (hcols : g.cols = e.grid.cols) (host : Host) :
    ∃ u, undo ⟨{ e with grid := g, history := e.history.record e.grid.snapshot }, host⟩ =
        (.ok true, u) ∧
      u.editor.grid = e.grid := by
  obtain ⟨past, hpast⟩ : ∃ past,
      (e.history.record e.grid.snapshot).past = e.grid.snapshot :: past := by
    rw [History.record, History.within.eq_def]
    cases hl : e.history.limit with
    | none => exact ⟨_, rfl⟩
    | some n =>
      dsimp only
      split
      · next hfull =>
        -- The oldest state is another one.
        rcases hp : e.history.past with _ | ⟨first, past⟩
        · rw [hp] at hfull
          obtain rfl : n = 0 := Nat.lt_one_iff.mp hfull
          exact absurd hl hlimit
        · exact ⟨_, rfl⟩
      · exact ⟨_, rfl⟩
  have hshape : e.grid.snapshot.HasShape g.rows g.cols := by
    rw [hrows, hcols]
    exact e.grid.shape
  rw [undo_apply]
  simp only [hpast, dif_pos hshape]
  exact ⟨_, rfl, Grid.eq_of_cells_eq rfl⟩

/-- **A recalculation that returns makes one pass.**  The formula cells are evaluated row by row,
each on the grid with the new values before it and the old ones behind, nothing but their values
changes, and the answer lists the cells whose values differ in increasing order; no other grid and
no other list would do.  If there are such cells, the contents before are recorded as one state and
what could be redone is dropped, so a step back restores them; no editor has the limit zero
(`limit_ne_zero_of_new`).  If there are none, the editor is as it was. -/
theorem recalculate_makes_pass (h : recalculate s = (.ok refs, t)) :
    (s.editor.grid.IsPass s.editor.registry t.editor.grid refs ∧
      ∀ new refs', s.editor.grid.IsPass s.editor.registry new refs' →
        new = t.editor.grid ∧ refs' = refs) ∧
    (refs = [] → t.editor = s.editor) ∧
    (refs ≠ [] →
      t.editor = { s.editor with grid := t.editor.grid, history := t.editor.history } ∧
      t.editor.history.limit = s.editor.history.limit ∧
      t.editor.history.past = History.within s.editor.history.limit
        (s.editor.grid.snapshot :: s.editor.history.past) ∧
      t.editor.history.future = [] ∧
      (s.editor.history.limit ≠ some 0 → ∀ host, ∃ u,
        undo ⟨t.editor, host⟩ = (.ok true, u) ∧ u.editor.grid = s.editor.grid)) := by
  obtain ⟨w, hsweep, rfl, heditor⟩ := editor_of_recalculate_eq_ok h
  obtain ⟨htracks, hswept⟩ := Sweep.IsSwept.run hsweep
  have hpass := htracks.isPass hswept
  rw [heditor]
  refine ⟨⟨hpass, fun new refs' hpass' => hpass.unique hpass'⟩, ?_, ?_⟩
  · intro hnil
    have hgrid := s.editor.sweep_grid_eq_iff
    rw [hsweep] at hgrid
    rw [if_pos hnil, hgrid.mpr (List.reverse_eq_nil_iff.mp hnil)]
  · intro hne
    rw [if_neg hne]
    refine ⟨rfl, rfl, rfl, rfl, ?_⟩
    intro hlimit host
    exact undo_of_record hlimit htracks.rows htracks.cols host

/-- Two formulas that read each other, after the number that one of them reads was changed. -/
def disturbed : Session :=
  { circle with editor :=
    { circle.editor with grid := circle.editor.grid.put 0 2 ⟨"1", ""⟩ } }

/-- Both formulas are evaluated once, in their order, and one step back undoes both. -/
theorem recalculate_makes_pass_disturbed :
    ∃ t, recalculate disturbed = (.ok [⟨0, 0⟩, ⟨0, 1⟩], t) ∧
      disturbed.editor.grid.IsPass disturbed.editor.registry t.editor.grid [⟨0, 0⟩, ⟨0, 1⟩] ∧
      t.editor.history.past = [disturbed.editor.grid.snapshot] ∧
      ∀ host, ∃ u, undo ⟨t.editor, host⟩ = (.ok true, u) ∧
        u.editor.grid = disturbed.editor.grid := by
  have hread : ∀ entry ∈ disturbed.editor.grid.formulaCells, IsReadable entry.2.formula := by
    intro entry hentry
    have hcells : disturbed.editor.grid.formulaCells =
        [(⟨0, 0⟩, ⟨"0", "=SUM(B1:C1)"⟩), (⟨0, 1⟩, ⟨"0", "=SUM(A1:A1)"⟩)] := rfl
    rw [hcells, List.mem_cons, List.mem_singleton] at hentry
    rcases hentry with rfl | rfl
    · exact Formula.isReadable_of_find_eq_ok rfl
    · exact Formula.isReadable_of_find_eq_ok rfl
  obtain ⟨refs, t, hrecalculate⟩ :=
    recalculate_returns (s := disturbed) tellsFailures_circle hread
  obtain ⟨w, hsweep, rfl, _⟩ := editor_of_recalculate_eq_ok hrecalculate
  have hchanged := changed_circle (e := disturbed.editor) rfl rfl
  rw [hsweep] at hchanged
  rw [hchanged] at hrecalculate
  obtain ⟨⟨hpass, _⟩, _, hrecorded⟩ := recalculate_makes_pass hrecalculate
  obtain ⟨_, _, hpast, _, hundo⟩ := hrecorded (List.cons_ne_nil _ _)
  exact ⟨t, hrecalculate, hpass, hpast, hundo nofun⟩

end Editor

end Spreadsheet

import Spreadsheet.Proofs.Evaluation
import Spreadsheet.Proofs.Operations
import Spreadsheet.Proofs.Places

/-!
Sweeps over formula cells.

`Sweep.visit_cases` says all that a visit can do.  From it follows what a sweep keeps
(`Sweep.Tracks`): only values change, and exactly at the cells that are reported as changed.  A
sweep stops at the first formula whose evaluation is interrupted, on the grid that the cells before
have left, and keeps what it has written until then (`Sweep.run_stops`).  A sweep that does not stop
writes nothing exactly if the cells are current (`Sweep.changed_run_eq_nil_iff`).
-/

namespace Spreadsheet

open Formula (Interruption IsEvaluable IsReadable Registry)

/-- The cell shows what its formula evaluates to. -/
def IsCurrent (registry : Registry) (g : Grid) (entry : CellRef × Cell) : Prop :=
  ∃ outcome, Formula.evaluate registry g entry.2.formula = .ok outcome ∧
    outcome.display = entry.2.value

namespace Sweep

variable {registry : Registry} {w w' : Sweep} {entries : List (CellRef × Cell)}

/-- A visit stops, or finds the cell current and only logs, or writes the cell and reports it. -/
theorem visit_cases (registry : Registry) (entry : CellRef × Cell) (w : Sweep) :
    (∃ e, Formula.evaluate registry w.grid entry.2.formula = .error e ∧
      visit registry entry w = (.error e, w)) ∨
    (∃ records, IsCurrent registry w.grid entry ∧
      visit registry entry w = (.ok (), { w with records := records })) ∨
    (∃ outcome records, Formula.evaluate registry w.grid entry.2.formula = .ok outcome ∧
      outcome.display ≠ entry.2.value ∧
      visit registry entry w = (.ok (), {
        grid := w.grid.put entry.1.row.toNat entry.1.col.toNat
          ⟨outcome.display, entry.2.formula⟩
        changed := entry.1 :: w.changed
        records := records })) := by
  rw [visit]
  cases houtcome : Formula.evaluate registry w.grid entry.2.formula with
  | error e => exact .inl ⟨e, rfl, rfl⟩
  | ok outcome =>
    by_cases hdisplay : outcome.display = entry.2.value
    · simp only [if_pos hdisplay]
      exact .inr (.inl ⟨_, ⟨outcome, houtcome, hdisplay⟩, rfl⟩)
    · simp only [if_neg hdisplay]
      exact .inr (.inr ⟨outcome, _, rfl, hdisplay, rfl⟩)

theorem run_cons_of_ok {entry : CellRef × Cell} (h : visit registry entry w = (.ok (), w')) :
    run registry (entry :: entries) w = run registry entries w' :=
  Action.bind_apply_ok h

theorem run_cons_of_error {entry : CellRef × Cell} {e : Interruption}
    (h : visit registry entry w = (.error e, w')) :
    run registry (entry :: entries) w = (.error e, w') :=
  Action.bind_apply_error h

theorem visit_of_evaluate_eq_error {entry : CellRef × Cell} {e : Interruption}
    (heval : Formula.evaluate registry w.grid entry.2.formula = .error e) :
    visit registry entry w = (.error e, w) := by
  rw [visit, heval]

theorem visit_of_isEvaluable {entry : CellRef × Cell}
    (h : IsEvaluable registry w.grid entry.2.formula) :
    ∃ w', visit registry entry w = (.ok (), w') := by
  obtain ⟨outcome, heval⟩ := (Formula.evaluate_returns_iff registry w.grid _).mpr h
  rcases visit_cases registry entry w with ⟨e, herror, _⟩ | ⟨_, _, hvisit⟩ | ⟨_, _, _, _, hvisit⟩
  · rw [heval] at herror
    cases herror
  · exact ⟨_, hvisit⟩
  · exact ⟨_, hvisit⟩

/-- A cell that is current is visited without a change. -/
theorem visit_of_isCurrent {entry : CellRef × Cell} (h : IsCurrent registry w.grid entry) :
    ∃ records, visit registry entry w = (.ok (), { w with records := records }) := by
  obtain ⟨outcome, heval, hdisplay⟩ := h
  rw [visit, heval]
  simp only [if_pos hdisplay]
  exact ⟨_, rfl⟩

/-- If all reducers tell their failures, formulas that can be read are visited without a stop. -/
theorem run_of_tells (htells : registry.TellsFailures)
    (hread : ∀ entry ∈ entries, IsReadable entry.2.formula) (w : Sweep) :
    ∃ w', run registry entries w = (.ok (), w') := by
  induction entries generalizing w with
  | nil => exact ⟨w, rfl⟩
  | cons entry entries ih =>
    obtain ⟨w', hvisit⟩ := visit_of_isEvaluable
      ((Formula.isEvaluable_iff_of_tells htells w.grid _).mpr (hread entry List.mem_cons_self))
    rw [run_cons_of_ok hvisit]
    exact ih (fun entry hmem => hread entry (List.mem_cons_of_mem _ hmem)) w'

/-- Cells that are current are visited without a change. -/
theorem run_of_isCurrent (hcurrent : ∀ entry ∈ entries, IsCurrent registry w.grid entry) :
    ∃ records, run registry entries w = (.ok (), { w with records := records }) := by
  induction entries generalizing w with
  | nil => exact ⟨w.records, rfl⟩
  | cons entry entries ih =>
    obtain ⟨records, hvisit⟩ := visit_of_isCurrent (hcurrent entry List.mem_cons_self)
    rw [run_cons_of_ok hvisit]
    exact ih (w := { w with records := records }) fun entry hmem =>
      hcurrent entry (List.mem_cons_of_mem _ hmem)

theorem run_append_of_ok {entries' : List (CellRef × Cell)}
    (h : run registry entries w = (.ok (), w')) :
    run registry (entries ++ entries') w = run registry entries' w' := by
  induction entries generalizing w with
  | nil =>
    cases h
    rfl
  | cons entry entries ih =>
    obtain ⟨_, v, hvisit, hrun⟩ := Action.bind_eq_ok_iff.mp h
    rw [List.cons_append, run_cons_of_ok hvisit]
    exact ih hrun

/-- A sweep stops where an evaluation is interrupted, with what it did until then. -/
theorem run_stops {before after : List (CellRef × Cell)} {entry : CellRef × Cell}
    {e : Interruption} (hrun : run registry before w = (.ok (), w'))
    (heval : Formula.evaluate registry w'.grid entry.2.formula = .error e) :
    run registry (before ++ entry :: after) w = (.error e, w') := by
  rw [run_append_of_ok hrun, run_cons_of_error (visit_of_evaluate_eq_error heval)]

/-- If a sweep stops, there is a first formula whose evaluation is interrupted. -/
theorem exists_first_of_run_eq_error {e : Interruption}
    (h : run registry entries w = (.error e, w')) :
    ∃ before entry after, entries = before ++ entry :: after ∧
      run registry before w = (.ok (), w') ∧
        Formula.evaluate registry w'.grid entry.2.formula = .error e := by
  induction entries generalizing w with
  | nil => cases h
  | cons entry entries ih =>
    rcases hvisit : visit registry entry w with ⟨e' | _, v⟩
    -- It stops here.
    · rw [run_cons_of_error hvisit] at h
      cases h
      rcases visit_cases registry entry w with ⟨e', heval, hstop⟩ | ⟨_, _, hok⟩ |
        ⟨_, _, _, _, hok⟩
      · rw [hvisit] at hstop
        cases hstop
        exact ⟨[], entry, entries, rfl, rfl, heval⟩
      · rw [hvisit] at hok
        cases hok
      · rw [hvisit] at hok
        cases hok
    -- It stops later.
    · rw [run_cons_of_ok hvisit] at h
      obtain ⟨before, stop, after, rfl, hbefore, hstop⟩ := ih h
      exact ⟨entry :: before, stop, after, rfl, (run_cons_of_ok hvisit).trans hbefore, hstop⟩

/-- What holds of the cells met so far and is kept by every visit of the next one holds of all cells
when a sweep has returned. -/
theorem run_induction {cells met : List (CellRef × Cell)}
    {P : List (CellRef × Cell) → Sweep → Prop}
    (hvisit : ∀ met entry rest w w', cells = met ++ entry :: rest → P met w →
      visit registry entry w = (.ok (), w') → P (met ++ [entry]) w')
    (hcells : cells = met ++ entries) (hstart : P met w)
    (hrun : run registry entries w = (.ok (), w')) : P cells w' := by
  -- On the cells still to be met; those met before move to the other list one by one.
  induction entries generalizing met w with
  | nil =>
    cases hrun
    rw [hcells, List.append_nil]
    exact hstart
  | cons entry entries ih =>
    obtain ⟨_, v, hfirst, hrest⟩ := Action.bind_eq_ok_iff.mp hrun
    refine ih ?_ (hvisit met entry entries w v hcells hstart hfirst) hrest
    rw [hcells, List.append_assoc, List.singleton_append]

/-- The sweep differs from a grid in values only, exactly at the cells that it reports as changed,
and it has met them in order. -/
structure Tracks (g : Grid) (met : List (CellRef × Cell)) (w : Sweep) : Prop where
  rows : w.grid.rows = g.rows
  cols : w.grid.cols = g.cols
  formula : ∀ row col, (w.grid.cellAt row col).formula = (g.cellAt row col).formula
  value : ∀ row col : Nat,
    (w.grid.cellAt row col).value ≠ (g.cellAt row col).value ↔ ⟨row, col⟩ ∈ w.changed
  changed : w.changed.reverse.Sublist (met.map Prod.fst)

namespace Tracks

variable {g : Grid} {met met' : List (CellRef × Cell)}

theorem start (g : Grid) : Tracks g [] { grid := g } where
  rows := rfl
  cols := rfl
  formula _ _ := rfl
  value row col := by simp
  changed := List.Sublist.refl []

theorem mono (h : Tracks g met w) (hsub : met.Sublist met') : Tracks g met' w :=
  { h with changed := h.changed.trans (hsub.map Prod.fst) }

/-- A visit of a cell that was not met before is tracked. -/
theorem visit (registry : Registry) (h : Tracks g met w) {entry : CellRef × Cell}
    (hentry : entry ∈ g.entries) (hnew : entry.1 ∉ met.map Prod.fst) :
    Tracks g (met ++ [entry]) (Sweep.visit registry entry w).2 := by
  have hsame := h.mono (List.sublist_append_left met [entry])
  rcases visit_cases registry entry w with ⟨e, _, hvisit⟩ | ⟨records, _, hvisit⟩ |
    ⟨outcome, records, _, hne, hvisit⟩
  · rw [hvisit]
    exact hsame
  · rw [hvisit]
    exact { hsame with }
  -- The cell is written.
  · obtain ⟨row, col, hrow, hcol, rfl⟩ := (g.mem_entries_iff entry).mp hentry
    have hput := w.grid.cellAt_put (h.rows ▸ hrow) (h.cols ▸ hcol)
      ⟨outcome.display, (g.cellAt row col).formula⟩
    rw [hvisit]
    refine ⟨h.rows, h.cols, fun r k => ?_, fun r k => ?_, ?_⟩
    · simp only [Int.toNat_natCast, hput]
      by_cases hplace : r = row ∧ k = col
      · rw [if_pos hplace, hplace.1, hplace.2]
      · rw [if_neg hplace]
        exact h.formula r k
    · simp only [Int.toNat_natCast, hput, List.mem_cons, CellRef.mk.injEq, Int.natCast_inj]
      by_cases hplace : r = row ∧ k = col
      · obtain ⟨rfl, rfl⟩ := hplace
        simpa using hne
      · rw [if_neg hplace, h.value r k]
        simp [hplace]
    · rw [List.reverse_cons, List.map_append]
      exact h.changed.append (List.Sublist.refl _)

/-- A visit of the next formula cell is tracked. -/
theorem visit_next (h : Tracks g met w) {entry : CellRef × Cell} {rest : List (CellRef × Cell)}
    (hcells : g.formulaCells = met ++ entry :: rest)
    (hvisit : Sweep.visit registry entry w = (.ok (), w')) :
    Tracks g (met ++ [entry]) w' := by
  have hmem : entry ∈ g.formulaCells := by
    rw [hcells]
    exact List.mem_append_right met List.mem_cons_self
  have hnext := h.visit registry (Grid.mem_entries_of_mem_formulaCells hmem)
    (Grid.not_mem_of_formulaCells_eq hcells)
  rw [hvisit] at hnext
  exact hnext

/-- A sweep over cells of a grid that are met only once is tracked. -/
theorem run (registry : Registry) (h : Tracks g met w)
    (hentries : ∀ entry ∈ entries, entry ∈ g.entries)
    (hnodup : ((met ++ entries).map Prod.fst).Nodup) :
    Tracks g (met ++ entries) (Sweep.run registry entries w).2 := by
  -- On the cells still to be met; those met before move to the other list one by one.
  induction entries generalizing met w with
  | nil =>
    rw [List.append_nil]
    exact h
  | cons entry entries ih =>
    have hnew : entry.1 ∉ met.map Prod.fst := by
      intro hmem
      rw [List.map_append, List.nodup_append] at hnodup
      exact hnodup.2.2 _ hmem _ (List.mem_map_of_mem List.mem_cons_self) rfl
    have hmet : met ++ entry :: entries = (met ++ [entry]) ++ entries := by
      rw [List.append_assoc, List.singleton_append]
    have hvisit := h.visit registry (hentries entry List.mem_cons_self) hnew
    rw [hmet] at hnodup ⊢
    rcases hw : Sweep.visit registry entry w with ⟨e | _, w'⟩
    -- Nothing is met any more.
    · rw [run_cons_of_error hw]
      rw [hw] at hvisit
      exact hvisit.mono (List.sublist_append_left _ entries)
    · rw [run_cons_of_ok hw]
      rw [hw] at hvisit
      exact ih hvisit (fun entry hmem => hentries entry (List.mem_cons_of_mem _ hmem)) hnodup

/-- A cell that is not reported as changed is as it was. -/
theorem cellAt_eq_of_not_mem (h : Tracks g met w) {row col : Nat}
    (hkept : (⟨row, col⟩ : CellRef) ∉ w.changed) :
    w.grid.cellAt row col = g.cellAt row col := by
  refine Cell.eq_of_value_eq ?_ (h.formula row col)
  exact Classical.not_not.mp fun hne => hkept ((h.value row col).mp hne)

/-- A cell that was not met is as it was. -/
theorem cellAt_eq (h : Tracks g met w) {row col : Nat}
    (hnew : (⟨row, col⟩ : CellRef) ∉ met.map Prod.fst) :
    w.grid.cellAt row col = g.cellAt row col :=
  h.cellAt_eq_of_not_mem fun hmem => hnew (h.changed.subset (List.mem_reverse.mpr hmem))

/-- A sweep leaves a grid as it was exactly if it reports no change. -/
theorem grid_eq_iff (h : Tracks g met w) (hmet : ∀ entry ∈ met, entry ∈ g.entries) :
    w.grid = g ↔ w.changed = [] := by
  constructor
  · intro hgrid
    rw [List.eq_nil_iff_forall_not_mem]
    intro ref href
    -- A cell that is reported is one of the grid, and its value differs.
    obtain ⟨entry, hentry, rfl⟩ :=
      List.mem_map.mp (h.changed.subset (List.mem_reverse.mpr href))
    obtain ⟨row, col, _, _, rfl⟩ := (g.mem_entries_iff entry).mp (hmet entry hentry)
    exact (h.value row col).mpr href (by rw [hgrid])
  · intro hchanged
    refine Grid.eq_of_cellAt_eq h.rows h.cols fun row col _ _ => ?_
    refine h.cellAt_eq_of_not_mem ?_
    rw [hchanged]
    exact List.not_mem_nil

end Tracks

theorem changed_visit_suffix (registry : Registry) (entry : CellRef × Cell) (w : Sweep) :
    w.changed <:+ (visit registry entry w).2.changed := by
  rcases visit_cases registry entry w with ⟨_, _, hvisit⟩ | ⟨_, _, hvisit⟩ | ⟨_, _, _, _, hvisit⟩
  · simp only [hvisit, List.suffix_refl]
  · simp only [hvisit, List.suffix_refl]
  · simp only [hvisit, List.suffix_cons]

/-- What is reported as changed stays reported. -/
theorem changed_run_suffix (registry : Registry) (entries : List (CellRef × Cell)) (w : Sweep) :
    w.changed <:+ (run registry entries w).2.changed := by
  induction entries generalizing w with
  | nil => exact List.suffix_refl _
  | cons entry entries ih =>
    have hvisit := changed_visit_suffix registry entry w
    rcases hw : visit registry entry w with ⟨e | _, w'⟩
    · rw [hw] at hvisit
      rw [run_cons_of_error hw]
      exact hvisit
    · rw [hw] at hvisit
      rw [run_cons_of_ok hw]
      exact hvisit.trans (ih w')

/-- A sweep that does not stop reports no change exactly if all cells are current. -/
theorem changed_run_eq_nil_iff (hrun : run registry entries w = (.ok (), w'))
    (hw : w.changed = []) :
    w'.changed = [] ↔ ∀ entry ∈ entries, IsCurrent registry w.grid entry := by
  constructor
  · intro hnil
    induction entries generalizing w with
    | nil => exact fun _ hmem => absurd hmem List.not_mem_nil
    | cons entry entries ih =>
      rcases visit_cases registry entry w with ⟨e, _, hvisit⟩ | ⟨records, hcurrent, hvisit⟩ |
        ⟨outcome, records, _, _, hvisit⟩
      · rw [run_cons_of_error hvisit] at hrun
        cases hrun
      · rw [run_cons_of_ok hvisit] at hrun
        exact List.forall_mem_cons.mpr ⟨hcurrent, ih (w := { w with records := records }) hrun hw⟩
      -- The change that is reported here stays reported.
      · rw [run_cons_of_ok hvisit] at hrun
        have hsuffix := changed_run_suffix registry entries { w with
          grid := w.grid.put entry.1.row.toNat entry.1.col.toNat ⟨outcome.display, entry.2.formula⟩
          changed := entry.1 :: w.changed
          records := records }
        rw [hrun, hnil] at hsuffix
        exact absurd (List.suffix_nil.mp hsuffix) (List.cons_ne_nil _ _)
  · intro hcurrent
    obtain ⟨records, hsame⟩ := run_of_isCurrent hcurrent
    rw [hsame] at hrun
    cases hrun
    exact hw

end Sweep

end Spreadsheet

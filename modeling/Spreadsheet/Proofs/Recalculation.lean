import Spreadsheet.Proofs.Sweep

/-!
When a recalculation fails.

It fails exactly if the evaluation of some cell is interrupted on the grid that the cells before
have left (`Editor.recalculate_fails_iff`), and it does not record anything then.  But these cells
are evaluated, and written, before the failure: `Editor.recalculate_atomic_iff` says that the grid
stays as it was exactly if all of them were current.
-/

namespace Spreadsheet

open Formula (Interruption IsReadable Registry overlong hasLongRow_overlong)
open Number (maxDigits)

namespace Editor

open Edit

/-- The sweep of a recalculation differs from the grid in the values of the cells it reports. -/
theorem tracks_sweep (e : Editor) : Sweep.Tracks e.grid e.grid.formulaCells e.sweep.2 :=
  (Sweep.Tracks.start e.grid).run e.registry
    (fun _ hmem => Grid.mem_entries_of_mem_formulaCells hmem) e.grid.nodup_formulaCells

/-- The sweep leaves the grid as it was exactly if it reports no change. -/
theorem sweep_grid_eq_iff (e : Editor) : e.sweep.2.grid = e.grid ↔ e.sweep.2.changed = [] :=
  e.tracks_sweep.grid_eq_iff fun _ hmem => Grid.mem_entries_of_mem_formulaCells hmem

/-- A recalculation that returns changes the grid, and the history if it reports a change. -/
theorem editor_of_recalculate_eq_ok {s t : Session} {refs : List CellRef}
    (h : recalculate s = (.ok refs, t)) :
    ∃ w, s.editor.sweep = (.ok (), w) ∧ refs = w.changed.reverse ∧
      t.editor = { s.editor with
        grid := w.grid
        history := if refs = [] then s.editor.history
          else s.editor.history.record s.editor.grid.snapshot } := by
  rw [recalculate_apply] at h
  rcases hsweep : s.editor.sweep with ⟨e | _, w⟩
  · rw [hsweep] at h
    cases h
  · rw [hsweep] at h
    refine ⟨w, rfl, ?_⟩
    simp only at h
    split at h
    · next hchanged =>
      cases h
      rw [hchanged]
      exact ⟨rfl, rfl⟩
    · next hchanged =>
      cases h
      rw [if_neg (mt List.reverse_eq_nil_iff.mp hchanged)]
      exact ⟨rfl, rfl⟩

/-- The sweep of a recalculation visits these cells, has come to `w` then, and stops at the next
one, since its evaluation is interrupted. -/
def Stops (e : Editor) (before : List (CellRef × Cell)) (w : Sweep) (i : Interruption) : Prop :=
  ∃ entry after, e.grid.formulaCells = before ++ entry :: after ∧
    Sweep.run e.registry before { grid := e.grid } = (.ok (), w) ∧
      Formula.evaluate e.registry w.grid entry.2.formula = .error i

theorem sweep_eq_error_iff (e : Editor) (w : Sweep) (i : Interruption) :
    e.sweep = (.error i, w) ↔ ∃ before, e.Stops before w i := by
  constructor
  · intro h
    obtain ⟨before, entry, after, hcells, hrun, heval⟩ := Sweep.exists_first_of_run_eq_error h
    exact ⟨before, entry, after, hcells, hrun, heval⟩
  · rintro ⟨before, entry, after, hcells, hrun, heval⟩
    rw [sweep, hcells]
    exact Sweep.run_stops hrun heval

/-- A recalculation that stops leaves the history, and the grid as it is then.  That is the grid
from before exactly if the cells which were visited are current. -/
theorem recalculate_stops {s : Session} {before : List (CellRef × Cell)} {w : Sweep}
    {i : Interruption} (h : s.editor.Stops before w i) :
    ∃ t, recalculate s = (.error (.interruption i), t) ∧
      t.editor.history = s.editor.history ∧
      (t.editor.grid = s.editor.grid ↔
        ∀ cell ∈ before, IsCurrent s.editor.registry s.editor.grid cell) := by
  have hsweep := (sweep_eq_error_iff s.editor w i).mpr ⟨before, h⟩
  obtain ⟨entry, after, _, hrun, _⟩ := h
  -- The grid is as it was exactly if nothing was reported until then.
  have hgrid := s.editor.sweep_grid_eq_iff
  rw [hsweep] at hgrid
  rw [recalculate_apply, hsweep]
  exact ⟨_, rfl, rfl, hgrid.trans (Sweep.changed_run_eq_nil_iff hrun rfl)⟩

theorem exists_stops_of_recalculate_eq_error {s t : Session} {fault : Fault}
    (h : recalculate s = (.error fault, t)) :
    ∃ before w i, s.editor.Stops before w i ∧ fault = .interruption i := by
  rw [recalculate_apply] at h
  rcases hsweep : s.editor.sweep with ⟨i | _, w⟩
  · rw [hsweep] at h
    cases h
    obtain ⟨before, hstops⟩ := (sweep_eq_error_iff s.editor w i).mp hsweep
    exact ⟨before, w, i, hstops, rfl⟩
  · rw [hsweep] at h
    simp only at h
    split at h
    · cases h
    · cases h

/-- A recalculation fails exactly if its sweep stops. -/
theorem recalculate_fails_iff (s : Session) :
    (∃ fault t, recalculate s = (.error fault, t)) ↔ ∃ before w i, s.editor.Stops before w i := by
  constructor
  · rintro ⟨fault, t, h⟩
    obtain ⟨before, w, i, hstops, _⟩ := exists_stops_of_recalculate_eq_error h
    exact ⟨before, w, i, hstops⟩
  · rintro ⟨before, w, i, hstops⟩
    obtain ⟨t, ht, _⟩ := recalculate_stops hstops
    exact ⟨_, t, ht⟩

/-- If all reducers tell their failures, formulas that can be read can be recalculated. -/
theorem recalculate_returns {s : Session} (htells : s.editor.registry.TellsFailures)
    (hread : ∀ entry ∈ s.editor.grid.formulaCells, IsReadable entry.2.formula) :
    ∃ refs t, recalculate s = (.ok refs, t) := by
  obtain ⟨w, hsweep⟩ := Sweep.run_of_tells htells hread { grid := s.editor.grid }
  rw [recalculate_apply, sweep, hsweep]
  simp only
  split
  · exact ⟨_, _, rfl⟩
  · exact ⟨_, _, rfl⟩

/-- **A recalculation that fails leaves grid and history as they were exactly if all formula cells
are current that it visits before it stops.**  Otherwise the grid keeps the values that were written
until then, and the history does not know of them. -/
theorem recalculate_atomic_iff (s : Session) :
    (∀ fault t, recalculate s = (.error fault, t) →
      t.editor.grid = s.editor.grid ∧ t.editor.history = s.editor.history) ↔
    ∀ before w i, s.editor.Stops before w i →
      ∀ cell ∈ before, IsCurrent s.editor.registry s.editor.grid cell := by
  constructor
  · intro hatomic before w i hstops
    obtain ⟨t, ht, _, hgrid⟩ := recalculate_stops hstops
    exact hgrid.mp (hatomic _ t ht).1
  · intro hcurrent fault t h
    obtain ⟨before, w, i, hstops, _⟩ := exists_stops_of_recalculate_eq_error h
    obtain ⟨t', ht', hhistory, hgrid⟩ := recalculate_stops hstops
    rw [h] at ht'
    cases ht'
    exact ⟨hgrid.mpr (hcurrent before w i hstops), hhistory⟩

/-- A grid whose first formula cell is out of date, and whose second one cannot be read. -/
def staleGrid : Grid :=
  ⟨1, 2, [[⟨"", "="⟩, ⟨"", overlong⟩]], by decide, by decide, by decide, by decide⟩

/-- A new editor for two cells. -/
def small : Editor where
  grid := .blank 1 2 (by decide) (by decide) (by decide)
  history := { limit := none }
  registry := Registry.standard
  storageKey := "spreadsheet"

/-- A store that holds the grid. -/
def staleHost : Host where
  store := .memory ⟨[("spreadsheet", staleGrid.write {})]⟩
  depthLimit := .least

theorem new_small :
    new {} Registry.standard (some 1) (some 2) none none = .ok small :=
  rfl

theorem formulaCells_staleGrid :
    staleGrid.formulaCells = [(⟨0, 0⟩, ⟨"", "="⟩)] ++ (⟨0, 1⟩, ⟨"", overlong⟩) :: [] := by
  have hoverlong : overlong ≠ "" := by
    intro h
    have hformula := hasLongRow_overlong.1
    rw [h] at hformula
    revert hformula
    decide
  simp [Grid.formulaCells, Grid.entries, staleGrid, Cell.isFormula, hoverlong]

theorem not_isCurrent_stale (registry : Registry) :
    ¬IsCurrent registry staleGrid (⟨0, 0⟩, ⟨"", "="⟩) := by
  rintro ⟨outcome, houtcome, hdisplay⟩
  -- The cell is to show that its formula is not supported.
  have hvalue : Formula.evaluate registry staleGrid "=" = .ok (.failure (.noRange "=")) := by
    have hfind : Range.find "=" = .ok none := by rfl
    have hformula : Formula.IsFormula "=" := by decide
    rw [Formula.evaluate, if_pos hformula, Formula.compute, Formula.rangeOf, hfind]
    rfl
  rw [hvalue] at houtcome
  cases houtcome
  revert hdisplay
  decide

/-- An editor can be brought to fail in the middle of a recalculation: it loads the grid. -/
theorem recalculate_not_atomic :
    ¬∀ (settings : Settings) (registry : Registry) (rows cols historyLimit : Option Int)
      (storageKey : Option String) (e : Editor) (host : Host) (operations : List Operation)
      (fault : Fault) (t : Session),
      new settings registry rows cols historyLimit storageKey = .ok e →
      recalculate (Session.run ⟨e, host⟩ operations) = (.error fault, t) →
        t.editor.grid = (Session.run ⟨e, host⟩ operations).editor.grid ∧
          t.editor.history = (Session.run ⟨e, host⟩ operations).editor.history := by
  intro hatomic
  have hget : Host.get small.storageKey staleHost =
      (.ok (some (staleGrid.write {})), staleHost) := rfl
  obtain ⟨records, hload⟩ := load_of_written (s := ⟨small, staleHost⟩) hget rfl rfl
  -- The grid is loaded, and the recalculation stops at its second cell.
  have hrun : Session.run ⟨small, staleHost⟩ [.load] =
      ({ editor := { small with grid := staleGrid }, host := staleHost } : Session).logged
        records := by
    rw [Session.run_cons, Session.run_nil, Operation.perform, Action.bind_apply_ok hload,
      Action.pure_apply]
  have hcells : (Session.run ⟨small, staleHost⟩ [.load]).editor.grid.formulaCells =
      [(⟨0, 0⟩, ⟨"", "="⟩)] ++ (⟨0, 1⟩, ⟨"", overlong⟩) :: [] := by
    rw [hrun]
    exact formulaCells_staleGrid
  -- No reducer of the registry has a part in it.
  have hread : ∀ cell ∈ [((⟨0, 0⟩, ⟨"", "="⟩) : CellRef × Cell)], IsReadable cell.2.formula := by
    intro cell hcell
    rw [List.mem_singleton.mp hcell]
    exact Formula.isReadable_of_search?_eq_none rfl
  obtain ⟨w, hw⟩ := Sweep.run_of_tells Registry.tellsFailures_standard hread
    { grid := (Session.run ⟨small, staleHost⟩ [.load]).editor.grid }
  have hregistry : (Session.run ⟨small, staleHost⟩ [.load]).editor.registry =
      Registry.standard := by
    rw [hrun]
    rfl
  have hstops : (Session.run ⟨small, staleHost⟩ [.load]).editor.Stops
      [(⟨0, 0⟩, ⟨"", "="⟩)] w (.digits ⟨maxDigits + 1⟩) := by
    refine ⟨(⟨0, 1⟩, ⟨"", overlong⟩), [], hcells, ?_, ?_⟩
    · rw [hregistry]
      exact hw
    · exact (Formula.evaluate_eq_error_iff _ _ _ (.digits ⟨maxDigits + 1⟩)).mpr
        hasLongRow_overlong
  obtain ⟨t, ht, _, hgrid⟩ := recalculate_stops hstops
  -- What the first cell shows was written before.
  have hstale := hgrid.mp (hatomic _ _ _ _ _ _ _ _ _ _ t new_small ht).1
  rw [hrun] at hstale
  exact not_isCurrent_stale _ (hstale _ List.mem_cons_self)

end Editor

end Spreadsheet

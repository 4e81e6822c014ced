import Spreadsheet.Proofs.Depth
import Spreadsheet.Proofs.Recalculation

/-!
What every operation of an editor keeps, whether it returns or fails.

`Editor.Keeps` is the frame: the size of the grid stays, at most one call is made on the history,
and the history holds no states but the ones it held and the contents that the grid had.
`Operation.keeps_perform` proves it of every operation.  So in a run from a new editor every state
of the history has the shape of the grid (`Editor.isShaped_run`), and undoing and redoing never fail
(`Editor.undo_returns`, `Editor.redo_returns`).
-/

namespace Spreadsheet

namespace Editor

/-- What stays of an editor. -/
structure Keeps (e e' : Editor) : Prop where
  rows : e'.grid.rows = e.grid.rows
  cols : e'.grid.cols = e.grid.cols
  history : e.history.Steps e'.history
  registry : e'.registry = e.registry
  storageKey : e'.storageKey = e.storageKey
  states : ∀ state ∈ e'.history.past ++ e'.history.future,
    state ∈ e.grid.snapshot :: (e.history.past ++ e.history.future)

variable {e e' : Editor} {s : Session}

theorem Keeps.limit (h : Keeps e e') : e'.history.limit = e.history.limit :=
  h.history.limit

theorem Keeps.refl (e : Editor) : Keeps e e :=
  ⟨rfl, rfl, .inl rfl, rfl, rfl, fun _ hstate => List.mem_cons_of_mem _ hstate⟩

/-- Other contents of the same size, and a history that is left alone. -/
theorem Keeps.replace (e : Editor) {g : Grid} (hrows : g.rows = e.grid.rows)
    (hcols : g.cols = e.grid.cols) : Keeps e { e with grid := g } :=
  ⟨hrows, hcols, .inl rfl, rfl, rfl, fun _ hstate => List.mem_cons_of_mem _ hstate⟩

theorem Keeps.ite {α : Type} {p : Prop} [Decidable p] {x y : Except Fault α × Session}
    (hx : Keeps e x.2.editor) (hy : Keeps e y.2.editor) :
    Keeps e (if p then x else y).2.editor := by
  by_cases hp : p
  · rw [if_pos hp]
    exact hx
  · rw [if_neg hp]
    exact hy

/-- Other contents of the same size, and the ones before recorded. -/
theorem Keeps.record (e : Editor) {g : Grid} (hrows : g.rows = e.grid.rows)
    (hcols : g.cols = e.grid.cols) :
    Keeps e { e with grid := g, history := e.history.record e.grid.snapshot } := by
  refine ⟨hrows, hcols, .inr ⟨.record e.grid.snapshot, rfl⟩, rfl, rfl, ?_⟩
  intro state hstate
  rcases List.mem_append.mp hstate with hpast | hfuture
  · rcases List.mem_cons.mp (History.mem_of_mem_within hpast) with rfl | hpast
    · exact List.mem_cons_self
    · exact List.mem_cons_of_mem _ (List.mem_append_left _ hpast)
  · cases hfuture

theorem keeps_selectCell (row col : Int) (s : Session) :
    Keeps s.editor (selectCell row col s).2.editor := by
  rw [selectCell_apply]
  exact .ite { Keeps.refl s.editor with } (.refl s.editor)

theorem keeps_startDrag (row col : Int) (s : Session) :
    Keeps s.editor (startDrag row col s).2.editor := by
  rw [startDrag_apply]
  exact .ite { Keeps.refl s.editor with } (.refl s.editor)

theorem keeps_extendDrag (row col : Int) (s : Session) :
    Keeps s.editor (extendDrag row col s).2.editor := by
  rw [extendDrag_apply]
  exact .ite { Keeps.refl s.editor with } (.refl s.editor)

theorem keeps_write (row col : Int) (c : Cell) (s : Session) :
    Keeps s.editor (write row col c s).2.editor := by
  rw [write_apply]
  exact .ite (Keeps.record s.editor rfl rfl) (.refl s.editor)

theorem keeps_apply (s : Session) : Keeps s.editor (Editor.apply s).2.editor := by
  rcases editor_apply_cases s with hsame | ⟨target, c, _, _, hwritten⟩
  · rw [hsame]
    exact .refl s.editor
  · rw [hwritten]
    exact .record s.editor rfl rfl

theorem keeps_recalculate (s : Session) : Keeps s.editor (recalculate s).2.editor := by
  have htracks := s.editor.tracks_sweep
  rw [recalculate_apply]
  rcases hsweep : s.editor.sweep with ⟨e | _, w⟩
  · rw [hsweep] at htracks
    exact .replace s.editor htracks.rows htracks.cols
  · rw [hsweep] at htracks
    exact .ite (.replace s.editor htracks.rows htracks.cols)
      (.record s.editor htracks.rows htracks.cols)

/-- A step between two states moves the present contents to the other side. -/
theorem keeps_undo (s : Session) : Keeps s.editor (undo s).2.editor := by
  rw [undo_apply]
  rcases hpast : s.editor.history.past with _ | ⟨previous, past⟩
  · exact .refl s.editor
  · have hcall : s.editor.history.Steps { s.editor.history with
        past := past
        future := s.editor.grid.snapshot :: s.editor.history.future } :=
      .inr ⟨.undo s.editor.grid.snapshot, by rw [History.perform_undo hpast]⟩
    have hstates : ∀ state ∈ past ++ s.editor.grid.snapshot :: s.editor.history.future,
        state ∈ s.editor.grid.snapshot :: (s.editor.history.past ++ s.editor.history.future) := by
      intro state hstate
      rw [hpast]
      simp only [List.mem_append, List.mem_cons] at hstate ⊢
      grind
    simp only
    by_cases hshape : previous.HasShape s.editor.grid.rows s.editor.grid.cols
    · rw [dif_pos hshape]
      exact ⟨rfl, rfl, hcall, rfl, rfl, hstates⟩
    · rw [dif_neg hshape]
      exact ⟨rfl, rfl, hcall, rfl, rfl, hstates⟩

theorem keeps_redo (s : Session) : Keeps s.editor (redo s).2.editor := by
  rw [redo_apply]
  rcases hfuture : s.editor.history.future with _ | ⟨next, future⟩
  · exact .refl s.editor
  · have hcall : s.editor.history.Steps { s.editor.history with
        past := s.editor.grid.snapshot :: s.editor.history.past
        future := future } :=
      .inr ⟨.redo s.editor.grid.snapshot, by rw [History.perform_redo hfuture]⟩
    have hstates : ∀ state ∈ (s.editor.grid.snapshot :: s.editor.history.past) ++ future,
        state ∈ s.editor.grid.snapshot :: (s.editor.history.past ++ s.editor.history.future) := by
      intro state hstate
      rw [hfuture]
      simp only [List.mem_append, List.mem_cons] at hstate ⊢
      grind
    simp only
    by_cases hshape : next.HasShape s.editor.grid.rows s.editor.grid.cols
    · rw [dif_pos hshape]
      exact ⟨rfl, rfl, hcall, rfl, rfl, hstates⟩
    · rw [dif_neg hshape]
      exact ⟨rfl, rfl, hcall, rfl, rfl, hstates⟩

theorem keeps_save (s : Session) : Keeps s.editor (save s).2.editor := by
  rw [save_apply]
  rcases Host.set s.editor.storageKey (s.editor.grid.write {}) s.host with ⟨e | _, host⟩
  · exact .refl s.editor
  · exact .refl s.editor

theorem keeps_load (s : Session) : Keeps s.editor (load s).2.editor := by
  rcases load_cases s with ⟨e, host, hload⟩ | ⟨host, hload⟩ | ⟨loaded, host, hrows, hcols, hload⟩
  · rw [hload]
    exact .refl s.editor
  · rw [hload]
    exact .refl s.editor
  · rw [hload]
    exact .replace s.editor hrows hcols

end Editor

namespace Operation

open Editor

/-- The frame of all operations. -/
theorem keeps_perform (operation : Operation) (s : Session) :
    Keeps s.editor (operation.perform s).2.editor := by
  rw [perform_snd]
  cases operation with
  | selectCell row col => exact keeps_selectCell row col s
  | startDrag row col => exact keeps_startDrag row col s
  | extendDrag row col => exact keeps_extendDrag row col s
  | endDrag => exact { Keeps.refl s.editor with }
  | resumeDrag => exact { Keeps.refl s.editor with }
  | setLiteral row col text => exact keeps_write row col ⟨text, ""⟩ s
  | setBar text => exact { Keeps.refl s.editor with }
  | apply => exact keeps_apply s
  | recalculate => exact keeps_recalculate s
  | undo => exact keeps_undo s
  | redo => exact keeps_redo s
  | save => exact keeps_save s
  | load => exact keeps_load s

end Operation

namespace Editor

/-- All states of the history have the shape of the grid. -/
def IsShaped (e : Editor) : Prop :=
  ∀ state ∈ e.history.past ++ e.history.future, state.HasShape e.grid.rows e.grid.cols

theorem Keeps.isShaped {e e' : Editor} (h : Keeps e e') (hshaped : e.IsShaped) :
    e'.IsShaped := by
  intro state hstate
  rw [h.rows, h.cols]
  rcases List.mem_cons.mp (h.states state hstate) with rfl | hstate
  · exact e.grid.shape
  · exact hshaped state hstate

/-- Whatever is done, and whether it returns or fails, all states keep the shape of the grid. -/
theorem isShaped_run {s : Session} (operations : List Operation) (hshaped : s.editor.IsShaped) :
    (s.run operations).editor.IsShaped := by
  induction operations generalizing s with
  | nil => exact hshaped
  | cons operation operations ih =>
    rw [Session.run_cons]
    exact ih ((operation.keeps_perform s).isShaped hshaped)

theorem history_new_eq_ok {limit : Option Int} {h : History Snapshot}
    (hnew : History.new limit = .ok h) : h = { limit := h.limit } := by
  rw [History.new.eq_def] at hnew
  split at hnew
  · cases hnew
    rfl
  · split at hnew
    · cases hnew
    · cases hnew
      rfl

/-- A new editor has a grid of the given size and an empty history, and nothing is selected. -/
theorem new_eq_ok {settings : Settings} {registry : Formula.Registry}
    {rows cols historyLimit : Option Int} {storageKey : Option String} {e : Editor}
    (h : new settings registry rows cols historyLimit storageKey = .ok e) :
    ∃ (g : Grid) (limit : Option Nat) (key : String),
      Grid.new (rows.getD settings.rows) (cols.getD settings.cols) = .ok g ∧
      e = {
        grid := g
        history := { limit := limit }
        registry := registry
        storageKey := key } := by
  unfold new at h
  obtain ⟨g, hgrid, h⟩ := exists_of_mapError_bind_eq_ok h
  obtain ⟨history, hhistory, h⟩ := exists_of_mapError_bind_eq_ok h
  cases h
  rw [history_new_eq_ok hhistory]
  exact ⟨g, history.limit, _, hgrid, rfl⟩

/-- Undoing returns, and tells whether there was a state to go back to. -/
theorem undo_returns {s : Session} (hshaped : s.editor.IsShaped) :
    ∃ t, undo s = (.ok (!s.editor.history.past.isEmpty), t) := by
  rw [undo_apply]
  rcases hpast : s.editor.history.past with _ | ⟨previous, past⟩
  · exact ⟨_, rfl⟩
  · have hshape : previous.HasShape s.editor.grid.rows s.editor.grid.cols := by
      refine hshaped previous ?_
      rw [hpast]
      exact List.mem_cons_self
    simp only [hshape, dif_pos]
    exact ⟨_, rfl⟩

theorem redo_returns {s : Session} (hshaped : s.editor.IsShaped) :
    ∃ t, redo s = (.ok (!s.editor.history.future.isEmpty), t) := by
  rw [redo_apply]
  rcases hfuture : s.editor.history.future with _ | ⟨next, future⟩
  · exact ⟨_, rfl⟩
  · have hshape : next.HasShape s.editor.grid.rows s.editor.grid.cols := by
      refine hshaped next ?_
      rw [hfuture]
      exact List.mem_append_right _ List.mem_cons_self
    simp only [hshape, dif_pos]
    exact ⟨_, rfl⟩

end Editor

end Spreadsheet

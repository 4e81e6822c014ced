import Spreadsheet.Proofs.Invariant

/-!
What holds of an editor at any time.

An editor is well-formed (`Editor.IsWellFormed`) if its grid has the size that it began with, all
states of its history have this size too, and what is selected lies in the grid, nothing of it
twice.  The grid and the history are kept by the frame of all operations.  A selection changes only
by a gesture whose cell was found in the grid before (`Operation.selection_perform`), and every such
gesture keeps it in the grid (`Selection.LiesIn.step`).  So every editor stays well-formed, whatever
is done with it and whether it returns or fails (`Editor.isWellFormed_of_new`).
-/

namespace Spreadsheet

namespace Selection

/-- The cell of an event, if it has one. -/
def Event.cell? : Event → Option CellRef
  | .click cell | .press cell | .enter cell => some cell
  | .release | .resume | .clear => none

/-- The active cell and all gathered cells are cells of the grid, and none is gathered twice. -/
structure LiesIn (s : Selection) (g : Grid) : Prop where
  active : ∀ cell, s.active = some cell → g.InBounds cell.row cell.col
  gathered : ∀ cell ∈ s.gathered, g.InBounds cell.row cell.col
  nodup : s.gathered.Nodup

variable {s : Selection} {g g' : Grid}

/-- Only the size of the grid counts. -/
theorem LiesIn.of_size (h : s.LiesIn g) (hrows : g'.rows = g.rows) (hcols : g'.cols = g.cols) :
    s.LiesIn g' := by
  have hsame : ∀ row col, g.InBounds row col → g'.InBounds row col := by
    intro row col hin
    rw [Grid.InBounds, hrows, hcols]
    exact hin
  exact ⟨fun cell hcell => hsame _ _ (h.active cell hcell),
    fun cell hcell => hsame _ _ (h.gathered cell hcell), h.nodup⟩

/-- An event at a cell of the grid keeps the selection in the grid. -/
theorem LiesIn.step (h : s.LiesIn g) {event : Event}
    (hcell : ∀ cell, event.cell? = some cell → g.InBounds cell.row cell.col) :
    (s.step event).2.LiesIn g := by
  cases event with
  | click cell =>
    refine ⟨fun c hc => ?_, fun c hc => absurd hc List.not_mem_nil, List.nodup_nil⟩
    obtain rfl : cell = c := Option.some.inj hc
    exact hcell cell rfl
  | press cell =>
    have hin := hcell cell rfl
    refine ⟨fun c hc => ?_, fun c hc => ?_, List.pairwise_singleton _ cell⟩
    · obtain rfl : cell = c := Option.some.inj hc
      exact hin
    · rw [List.mem_singleton.mp hc]
      exact hin
  | enter cell =>
    show (s.enter cell).LiesIn g
    rw [enter]
    by_cases hnew : s.canGather cell = true
    · rw [if_pos hnew]
      rw [canGather, Bool.and_eq_true, Bool.not_eq_true', List.contains_eq_mem,
        decide_eq_false_iff_not] at hnew
      refine ⟨h.active, fun c hc => ?_, ?_⟩
      · rcases List.mem_append.mp hc with hc | hc
        · exact h.gathered c hc
        · rw [List.mem_singleton.mp hc]
          exact hcell cell rfl
      · refine List.nodup_append.mpr ⟨h.nodup, List.pairwise_singleton _ cell, ?_⟩
        intro a ha b hb heq
        rw [heq, List.mem_singleton.mp hb] at ha
        exact hnew.2 ha
    · rw [if_neg hnew]
      exact h
  | release => exact { h with }
  | resume =>
    show s.resume.LiesIn g
    rw [resume]
    split
    · exact { h with }
    · exact h
  | clear =>
    exact ⟨nofun, fun _ hc => absurd hc List.not_mem_nil, List.nodup_nil⟩

end Selection

namespace Editor

theorem selection_write (row col : Int) (c : Cell) (s : Session) :
    (write row col c s).2.editor.selection = s.editor.selection := by
  rw [write_apply]
  split <;> rfl

theorem selection_apply (s : Session) :
    (Editor.apply s).2.editor.selection = s.editor.selection := by
  rcases editor_apply_cases s with hsame | ⟨target, c, _, _, hwritten⟩
  · rw [hsame]
  · rw [hwritten]

theorem selection_recalculate (s : Session) :
    (recalculate s).2.editor.selection = s.editor.selection := by
  rw [recalculate_apply]
  rcases s.editor.sweep with ⟨e | _, w⟩
  · rfl
  · dsimp only
    split <;> rfl

theorem selection_undo (s : Session) : (undo s).2.editor.selection = s.editor.selection := by
  rw [undo_apply]
  split
  · rfl
  · dsimp only
    split <;> rfl

theorem selection_redo (s : Session) : (redo s).2.editor.selection = s.editor.selection := by
  rw [redo_apply]
  split
  · rfl
  · dsimp only
    split <;> rfl

theorem selection_save (s : Session) : (save s).2.editor.selection = s.editor.selection := by
  rw [save_apply]
  split <;> rfl

theorem selection_load (s : Session) : (load s).2.editor.selection = s.editor.selection := by
  rcases load_cases s with ⟨e, host, hload⟩ | ⟨host, hload⟩ | ⟨loaded, host, _, _, hload⟩
  · rw [hload]
  · rw [hload]
  · rw [hload]

end Editor

namespace Operation

open Editor

/-- What the pointer does in an operation. -/
def gesture? : Operation → Option Selection.Event
  | .selectCell row col => some (.click ⟨row, col⟩)
  | .startDrag row col => some (.press ⟨row, col⟩)
  | .extendDrag row col => some (.enter ⟨row, col⟩)
  | .endDrag => some .release
  | .resumeDrag => some .resume
  | _ => none

/-- What becomes of the selection: nothing, or what the gesture of the operation makes of it, if its
cell is in the grid. -/
def selects (operation : Operation) (e : Editor) : Selection :=
  match operation.gesture? with
  | none => e.selection
  | some event =>
    match event.cell? with
    | none => (e.selection.step event).2
    | some cell =>
      if e.grid.InBounds cell.row cell.col then (e.selection.step event).2 else e.selection

/-- Only gestures change the selection, and only at cells of the grid. -/
theorem selection_perform (operation : Operation) (s : Session) :
    (operation.perform s).2.editor.selection = operation.selects s.editor := by
  rw [perform_snd]
  cases operation with
  | selectCell row col =>
    dsimp only
    rw [selectCell_apply]
    exact apply_ite (fun r : Except Fault Unit × Session => r.2.editor.selection) _ _ _
  | startDrag row col =>
    dsimp only
    rw [startDrag_apply]
    exact apply_ite (fun r : Except Fault Unit × Session => r.2.editor.selection) _ _ _
  | extendDrag row col =>
    dsimp only
    rw [extendDrag_apply]
    exact apply_ite (fun r : Except Fault Bool × Session => r.2.editor.selection) _ _ _
  | endDrag => rfl
  | resumeDrag => rfl
  | setLiteral row col text => exact selection_write row col ⟨text, ""⟩ s
  | setBar text => rfl
  | apply => exact selection_apply s
  | recalculate => exact selection_recalculate s
  | undo => exact selection_undo s
  | redo => exact selection_redo s
  | save => exact selection_save s
  | load => exact selection_load s

/-- No operation selects anything outside of the grid, or anything twice. -/
theorem liesIn_selects {operation : Operation} {e : Editor} (h : e.selection.LiesIn e.grid) :
    (operation.selects e).LiesIn e.grid := by
  rw [selects]
  split
  · exact h
  · next event _ =>
    split
    · next hcell =>
      exact h.step fun cell hc => by rw [hcell] at hc; cases hc
    · next cell hcell =>
      split
      · next hin =>
        refine h.step fun c hc => ?_
        rw [hcell] at hc
        cases hc
        exact hin
      · exact h

end Operation

namespace Editor

/-- The grid has `m` rows and `n` columns and as many cells, all states of the history have this
size, and what is selected lies in the grid. -/
structure IsWellFormed (m n : Nat) (e : Editor) : Prop where
  rows : e.grid.rows = m
  cols : e.grid.cols = n
  cells : e.grid.cells.HasShape m n
  past : ∀ state ∈ e.history.past, state.HasShape m n
  future : ∀ state ∈ e.history.future, state.HasShape m n
  selection : e.selection.LiesIn e.grid

variable {m n : Nat} {e : Editor} {s : Session}

theorem IsWellFormed.isShaped (h : e.IsWellFormed m n) : e.IsShaped := by
  intro state hstate
  rw [h.rows, h.cols]
  rcases List.mem_append.mp hstate with hpast | hfuture
  · exact h.past state hpast
  · exact h.future state hfuture

/-- Every operation, whether it returns or fails, leaves a well-formed editor well-formed. -/
theorem IsWellFormed.perform (h : s.editor.IsWellFormed m n) (operation : Operation) :
    (operation.perform s).2.editor.IsWellFormed m n := by
  have hkeeps := operation.keeps_perform s
  have hrows := hkeeps.rows.trans h.rows
  have hcols := hkeeps.cols.trans h.cols
  have hshaped : ∀ state ∈ (operation.perform s).2.editor.history.past ++
      (operation.perform s).2.editor.history.future, state.HasShape m n := by
    intro state hstate
    rw [← hrows, ← hcols]
    exact hkeeps.isShaped h.isShaped state hstate
  refine ⟨hrows, hcols, ?_, fun state hstate => ?_, fun state hstate => ?_, ?_⟩
  · rw [← hrows, ← hcols]
    exact (operation.perform s).2.editor.grid.shape
  · exact hshaped state (List.mem_append_left _ hstate)
  · exact hshaped state (List.mem_append_right _ hstate)
  · rw [operation.selection_perform]
    exact (Operation.liesIn_selects h.selection).of_size hkeeps.rows hkeeps.cols

/-- The editor after operations one after the other, each with the store and the log that it finds.
Others may change these in between in any way. -/
def after (e : Editor) (steps : List (Host × Operation)) : Editor :=
  steps.foldl (fun e step => (step.2.perform ⟨e, step.1⟩).2.editor) e

theorem IsWellFormed.after (h : e.IsWellFormed m n) (steps : List (Host × Operation)) :
    (e.after steps).IsWellFormed m n := by
  induction steps generalizing e with
  | nil => exact h
  | cons step steps ih => exact ih (h.perform (s := ⟨e, step.1⟩) step.2)

theorem isWellFormed_new {settings : Settings} {registry : Formula.Registry}
    {rows cols historyLimit : Option Int} {storageKey : Option String} {e : Editor}
    (hnew : new settings registry rows cols historyLimit storageKey = .ok e) :
    e.IsWellFormed e.grid.rows e.grid.cols := by
  obtain ⟨g, limit, key, _, rfl⟩ := new_eq_ok hnew
  refine ⟨rfl, rfl, g.shape, ?_, ?_, ?_, ?_, List.nodup_nil⟩
  · exact fun _ hstate => absurd hstate List.not_mem_nil
  · exact fun _ hstate => absurd hstate List.not_mem_nil
  · exact nofun
  · exact fun _ hcell => absurd hcell List.not_mem_nil

/-- The active cell can be written, so an application fails only if its evaluation is
interrupted. -/
theorem IsWellFormed.apply_fails (h : s.editor.IsWellFormed m n) {fault : Fault} {t : Session}
    (hfails : Editor.apply s = (.error fault, t)) :
    ∃ i, Formula.evaluate s.editor.registry s.editor.grid s.editor.bar = .error i ∧
      fault = .interruption i := by
  rw [apply_apply] at hfails
  rcases hactive : s.editor.selection.active with _ | target
  · rw [hactive] at hfails
    cases hfails
  · rw [hactive] at hfails
    have heditor := cellOf_editor s.editor.bar s
    rcases hcell : cellOf s.editor.bar s with ⟨e | c, u⟩
    · rw [hcell] at hfails
      cases hfails
      rw [cellOf_apply] at hcell
      split at hcell
      · split at hcell
        · next i heval =>
          cases hcell
          exact ⟨i, heval, rfl⟩
        · cases hcell
      · cases hcell
    · rw [hcell] at hfails heditor
      have hin : u.editor.grid.InBounds target.row target.col := by
        rw [show u.editor = s.editor from heditor]
        exact h.selection.active target hactive
      dsimp only at hfails
      rw [write_apply, if_pos hin] at hfails
      cases hfails

/-- A change, a change outside of the grid, a drag that enters a cell twice, and a step back. -/
def gropingSteps : List (Host × Operation) :=
  let host : Host := ⟨.memory {}, [], .least⟩
  [(host, .setLiteral 0 0 "a"), (host, .setLiteral 7 7 "b"), (host, .startDrag 0 0),
    (host, .extendDrag 0 1), (host, .extendDrag 0 1), (host, .undo)]

end Editor

end Spreadsheet

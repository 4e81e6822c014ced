import Spreadsheet.Proofs.Invariant

/-!
The editor as a cursor on a line of states.

The timeline of an editor is the states behind the present one, the present one, and those ahead.
`Timeline.Evolves` says what an operation does to it: a change of cells forgets what is ahead,
undoing and redoing move the cursor on a line that stays, loading replaces the present state, and
nothing else has an effect.  `Operation.evolves_perform` is the step from one session to the next.
It needs that the history holds no more states than its limit, since a change of cells forgets one
state at most; every operation keeps to that, and so `Editor.timeline_of_new` follows for everything
that can be done with a new editor.
-/

namespace Spreadsheet

/-- A line of states with a cursor on it: the states behind, oldest first, the state at the cursor,
and the states ahead, nearest first. -/
structure Timeline (α : Type) where
  past : List α
  current : α
  future : List α

namespace Timeline

variable {α : Type}

/-- All states in their order. -/
def line (t : Timeline α) : List α :=
  t.past ++ t.current :: t.future

/-- A new state at the cursor.  The one before it is behind now, of those behind the last ones are
left, as many as the limit allows, and nothing is ahead. -/
def record (limit : Option Nat) (t : Timeline α) (new : α) : Timeline α :=
  ⟨History.lastOf limit (t.past ++ [t.current]), new, []⟩

end Timeline

namespace Snapshot

/-- The cell at a place, empty if there is none. -/
def cellAt (s : Snapshot) (row col : Nat) : Cell :=
  ((s[row]?.getD [])[col]?).getD {}

/-- The contents with another cell at a place. -/
def put (s : Snapshot) (ref : CellRef) (c : Cell) : Snapshot :=
  s.modify ref.row.toNat (·.set ref.col.toNat c)

/-- The contents differ in values only, and exactly at the given places. -/
def DiffersAt (s s' : Snapshot) (refs : List CellRef) : Prop :=
  ∀ row col : Nat, (s'.cellAt row col).formula = (s.cellAt row col).formula ∧
    ((s'.cellAt row col).value ≠ (s.cellAt row col).value ↔ ⟨row, col⟩ ∈ refs)

end Snapshot

/-- An operation as it is seen from outside: the active cell before it, and its answer. -/
structure Event where
  operation : Operation
  active : Option CellRef
  answer : Answer

/-- What an event does to a timeline. -/
def Timeline.Evolves (limit : Option Nat) (event : Event) (t t' : Timeline Snapshot) : Prop :=
  match event.operation, event.answer with
  | .setLiteral row col text, _ => t' = t.record limit (t.current.put ⟨row, col⟩ ⟨text, ""⟩)
  | .apply, .cell c =>
    match event.active with
    | none => c = none ∧ t' = t
    | some target =>
      ∃ written, c = some written ∧ t' = t.record limit (t.current.put target written)
  | .recalculate, .changed [] => t' = t
  | .recalculate, .changed refs =>
    ∃ new, t.current.DiffersAt new refs ∧ t' = t.record limit new
  | .undo, .flag true => t'.line = t.line ∧ t'.past.length + 1 = t.past.length
  | .undo, .flag false => t.past = [] ∧ t' = t
  | .redo, .flag true => t'.line = t.line ∧ t'.past.length = t.past.length + 1
  | .redo, .flag false => t.future = [] ∧ t' = t
  | .load, .flag true => ∃ new, t' = { t with current := new }
  | _, _ => t' = t

/-- What events do to a timeline one after the other. -/
inductive Timeline.Run (limit : Option Nat) :
    Timeline Snapshot → List Event → Timeline Snapshot → Prop
  | nil (t : Timeline Snapshot) : Run limit t [] t
  | cons {t t' t'' : Timeline Snapshot} {event : Event} {events : List Event} :
    t.Evolves limit event t' → Run limit t' events t'' → Run limit t (event :: events) t''

/-- Operations one after the other that all return. -/
inductive Session.Returns : Session → List Event → Session → Prop
  | nil (s : Session) : Returns s [] s
  | cons {s s' s'' : Session} {operation : Operation} {answer : Answer} {events : List Event} :
    operation.perform s = (.ok answer, s') → Returns s' events s'' →
      Returns s (⟨operation, s.editor.selection.active, answer⟩ :: events) s''

/-- The timeline of an editor. -/
def Editor.timeline (e : Editor) : Timeline Snapshot :=
  ⟨e.history.past.reverse, e.grid.snapshot, e.history.future⟩

/-- Recording a state in the history puts a new one at the cursor. -/
theorem Editor.timeline_record {e : Editor} (hbounded : e.history.IsBounded) (g : Grid) :
    Editor.timeline { e with grid := g, history := e.history.record e.grid.snapshot } =
      e.timeline.record e.history.limit g.snapshot := by
  show Timeline.mk _ _ _ = Timeline.mk _ _ _
  rw [hbounded.reverse_past_record]
  rfl

/-- A sweep differs from its grid at the cells that it reports, in whatever order. -/
theorem Sweep.Tracks.differsAt {g : Grid} {met : List (CellRef × Cell)} {w : Sweep}
    (h : w.Tracks g met) : g.snapshot.DiffersAt w.grid.snapshot w.changed.reverse := by
  intro row col
  refine ⟨h.formula row col, ?_⟩
  rw [List.mem_reverse]
  exact h.value row col

namespace Editor

variable {s s' : Session}

/-- What leaves grid and history alone leaves the timeline alone. -/
theorem timeline_eq {e e' : Editor} (hgrid : e'.grid = e.grid) (hhistory : e'.history = e.history) :
    e'.timeline = e.timeline := by
  rw [timeline, timeline, hgrid, hhistory]

theorem evolves_setLiteral {row col : Int} {text : String} {c : Cell}
    (hbounded : s.editor.history.IsBounded)
    (h : Editor.setLiteral row col text s = (.ok c, s')) :
    s'.editor.timeline = s.editor.timeline.record s.editor.history.limit
      (s.editor.timeline.current.put ⟨row, col⟩ ⟨text, ""⟩) := by
  rw [Editor.setLiteral, write_apply] at h
  obtain ⟨_, _, rfl⟩ := Action.ite_eq_ok h
  exact timeline_record hbounded _

/-- The bar is written into the active cell, if there is one. -/
theorem evolves_apply {c : Option Cell} (hbounded : s.editor.history.IsBounded)
    (h : Editor.apply s = (.ok c, s')) :
    s.editor.timeline.Evolves s.editor.history.limit
      ⟨.apply, s.editor.selection.active, .cell c⟩ s'.editor.timeline := by
  rcases apply_eq_ok h with ⟨hactive, rfl, rfl⟩ |
    ⟨target, written, t, hactive, hcell, hwrite, rfl⟩
  · rw [hactive]
    exact ⟨rfl, rfl⟩
  · -- The evaluation leaves the editor as it was before the cell is written.
    have heditor := cellOf_editor s.editor.bar s
    rw [hcell] at heditor
    dsimp only at heditor
    rw [write_apply, heditor] at hwrite
    obtain ⟨_, _, rfl⟩ := Action.ite_eq_ok hwrite
    rw [hactive]
    exact ⟨written, rfl, timeline_record hbounded _⟩

theorem evolves_recalculate {refs : List CellRef} (hbounded : s.editor.history.IsBounded)
    (h : recalculate s = (.ok refs, s')) :
    s.editor.timeline.Evolves s.editor.history.limit
      ⟨.recalculate, s.editor.selection.active, .changed refs⟩ s'.editor.timeline := by
  obtain ⟨w, hsweep, rfl, heditor⟩ := editor_of_recalculate_eq_ok h
  have htracks := s.editor.tracks_sweep
  have hgrid := s.editor.sweep_grid_eq_iff
  rw [hsweep] at htracks hgrid
  rw [heditor]
  rcases hrefs : w.changed.reverse with _ | ⟨ref, refs⟩
  · -- Nothing was written.
    exact timeline_eq (hgrid.mpr (List.reverse_eq_nil_iff.mp hrefs)) rfl
  · refine ⟨w.grid.snapshot, ?_, timeline_record hbounded w.grid⟩
    rw [← hrefs]
    exact htracks.differsAt

/-- Undoing moves the cursor back, unless there is nothing behind it. -/
theorem evolves_undo {b : Bool} (h : undo s = (.ok b, s')) :
    s.editor.timeline.Evolves s.editor.history.limit
      ⟨.undo, s.editor.selection.active, .flag b⟩ s'.editor.timeline := by
  rw [undo_apply] at h
  rcases hpast : s.editor.history.past with _ | ⟨previous, past⟩
  · rw [hpast] at h
    cases h
    refine ⟨?_, rfl⟩
    show s.editor.history.past.reverse = []
    rw [hpast, List.reverse_nil]
  · rw [hpast] at h
    simp only at h
    split at h
    · cases h
      refine ⟨?_, ?_⟩
      · show past.reverse ++ previous :: s.editor.grid.snapshot :: s.editor.history.future =
          s.editor.history.past.reverse ++ s.editor.grid.snapshot :: s.editor.history.future
        rw [hpast, List.reverse_cons, List.append_assoc, List.singleton_append]
      · show past.reverse.length + 1 = s.editor.history.past.reverse.length
        rw [hpast, List.length_reverse, List.length_reverse, List.length_cons]
    · cases h

/-- Redoing moves the cursor forward, unless there is nothing ahead of it. -/
theorem evolves_redo {b : Bool} (h : redo s = (.ok b, s')) :
    s.editor.timeline.Evolves s.editor.history.limit
      ⟨.redo, s.editor.selection.active, .flag b⟩ s'.editor.timeline := by
  rw [redo_apply] at h
  rcases hfuture : s.editor.history.future with _ | ⟨next, future⟩
  · rw [hfuture] at h
    cases h
    exact ⟨hfuture, rfl⟩
  · rw [hfuture] at h
    simp only at h
    split at h
    · cases h
      refine ⟨?_, ?_⟩
      · show (s.editor.grid.snapshot :: s.editor.history.past).reverse ++ next :: future =
          s.editor.history.past.reverse ++ s.editor.grid.snapshot :: s.editor.history.future
        rw [hfuture, List.reverse_cons, List.append_assoc, List.singleton_append]
      · show (s.editor.grid.snapshot :: s.editor.history.past).reverse.length =
          s.editor.history.past.reverse.length + 1
        rw [List.length_reverse, List.length_reverse, List.length_cons]
    · cases h

theorem evolves_save (h : save s = (.ok (), s')) : s'.editor.timeline = s.editor.timeline := by
  rw [save_apply] at h
  split at h
  · cases h
  · cases h
    rfl

/-- Loading replaces the present state, or finds nothing. -/
theorem evolves_load {b : Bool} (h : load s = (.ok b, s')) :
    s.editor.timeline.Evolves s.editor.history.limit
      ⟨.load, s.editor.selection.active, .flag b⟩ s'.editor.timeline := by
  rcases load_cases s with ⟨e, host, hload⟩ | ⟨host, hload⟩ | ⟨loaded, host, _, _, hload⟩
  · rw [hload] at h
    cases h
  · rw [hload] at h
    cases h
    rfl
  · rw [hload] at h
    cases h
    exact ⟨loaded.snapshot, rfl⟩

end Editor

namespace Operation

open Editor

/-- What an operation that returns does to the timeline. -/
theorem evolves_perform {operation : Operation} {answer : Answer} {s s' : Session}
    (hbounded : s.editor.history.IsBounded)
    (h : operation.perform s = (.ok answer, s')) :
    s.editor.timeline.Evolves s.editor.history.limit
      ⟨operation, s.editor.selection.active, answer⟩ s'.editor.timeline := by
  cases operation with
  | selectCell row col =>
    obtain ⟨_, hx, rfl⟩ := Action.bind_pure_eq_ok_iff.mp h
    rw [selectCell_apply] at hx
    obtain ⟨_, _, rfl⟩ := Action.ite_eq_ok hx
    rfl
  | startDrag row col =>
    obtain ⟨_, hx, rfl⟩ := Action.bind_pure_eq_ok_iff.mp h
    rw [startDrag_apply] at hx
    obtain ⟨_, _, rfl⟩ := Action.ite_eq_ok hx
    rfl
  | extendDrag row col =>
    obtain ⟨_, hx, rfl⟩ := Action.bind_pure_eq_ok_iff.mp h
    rw [extendDrag_apply] at hx
    obtain ⟨_, _, rfl⟩ := Action.ite_eq_ok hx
    rfl
  | endDrag =>
    cases h
    rfl
  | resumeDrag =>
    cases h
    rfl
  | setLiteral row col text =>
    obtain ⟨_, hx, rfl⟩ := Action.bind_pure_eq_ok_iff.mp h
    exact evolves_setLiteral hbounded hx
  | setBar text =>
    cases h
    rfl
  | apply =>
    obtain ⟨_, hx, rfl⟩ := Action.bind_pure_eq_ok_iff.mp h
    exact evolves_apply hbounded hx
  | recalculate =>
    obtain ⟨_, hx, rfl⟩ := Action.bind_pure_eq_ok_iff.mp h
    exact evolves_recalculate hbounded hx
  | undo =>
    obtain ⟨_, hx, rfl⟩ := Action.bind_pure_eq_ok_iff.mp h
    exact evolves_undo hx
  | redo =>
    obtain ⟨_, hx, rfl⟩ := Action.bind_pure_eq_ok_iff.mp h
    exact evolves_redo hx
  | save =>
    obtain ⟨_, hx, rfl⟩ := Action.bind_pure_eq_ok_iff.mp h
    exact evolves_save hx
  | load =>
    obtain ⟨_, hx, rfl⟩ := Action.bind_pure_eq_ok_iff.mp h
    exact evolves_load hx

end Operation

namespace Session.Returns

variable {s s' : Session} {events : List Event}

theorem run_eq (h : Returns s events s') : s.run (events.map Event.operation) = s' := by
  induction h with
  | nil s => rfl
  | @cons s s' _ operation _ _ hperform _ ih =>
    rw [List.map_cons, Session.run_cons, hperform]
    exact ih

/-- Operations that return move the cursor on the timeline. -/
theorem run_timeline (h : Returns s events s') (hbounded : s.editor.history.IsBounded) :
    Timeline.Run s.editor.history.limit s.editor.timeline events s'.editor.timeline := by
  induction h with
  | nil s => exact .nil _
  | @cons s s' _ operation _ _ hperform _ ih =>
    have hkeeps := operation.keeps_perform s
    rw [hperform] at hkeeps
    refine .cons (Operation.evolves_perform hbounded hperform) ?_
    rw [← hkeeps.limit]
    exact ih (hkeeps.history.isBounded hbounded)

end Session.Returns

/-- **An editor is a cursor on a line of states.**  Whatever is done with a new editor, its timeline
evolves as the operations and their answers say, from the empty grid with nothing behind and nothing
ahead.  At any time undoing returns, and tells whether there is a state behind, and redoing returns,
and tells whether there is one ahead. -/
theorem Editor.timeline_of_new {settings : Settings} {registry : Formula.Registry}
    {rows cols historyLimit : Option Int} {storageKey : Option String} {e : Editor}
    (hnew : new settings registry rows cols historyLimit storageKey = .ok e) {host : Host}
    {events : List Event} {s : Session} (hreturns : Session.Returns ⟨e, host⟩ events s) :
    Timeline.Run e.history.limit ⟨[], e.grid.snapshot, []⟩ events s.editor.timeline ∧
      (∃ t, undo s = (.ok (!s.editor.timeline.past.isEmpty), t)) ∧
      ∃ t, redo s = (.ok (!s.editor.timeline.future.isEmpty), t) := by
  obtain ⟨g, limit, key, _, rfl⟩ := new_eq_ok hnew
  have hshaped : s.editor.IsShaped := by
    rw [← hreturns.run_eq]
    exact isShaped_run _ fun _ hstate => absurd hstate List.not_mem_nil
  obtain ⟨t, hundo⟩ := undo_returns hshaped
  obtain ⟨t', hredo⟩ := redo_returns hshaped
  refine ⟨hreturns.run_timeline (History.isBounded_empty limit), ⟨t, ?_⟩, t', hredo⟩
  rw [hundo]
  show (Except.ok _, t) = (Except.ok (!s.editor.history.past.reverse.isEmpty), t)
  rw [List.isEmpty_reverse]

/-- A new editor that remembers one state. -/
def Editor.limited : Editor :=
  { small with history := { limit := some 1 } }

/-- Two changes of a cell, and one step back. -/
def Editor.limitedEvents : List Event :=
  [⟨.setLiteral 0 0 "a", none, .cell (some ⟨"a", ""⟩)⟩,
    ⟨.setLiteral 0 0 "b", none, .cell (some ⟨"b", ""⟩)⟩,
    ⟨.undo, none, .flag true⟩]

/-- The state before the first change is forgotten. -/
theorem Editor.timeline_of_new_limited :
    new {} Formula.Registry.standard (some 1) (some 2) (some 1) none = .ok limited ∧
      ∃ s, Session.Returns ⟨limited, ⟨.memory {}, [], .least⟩⟩ limitedEvents s ∧
        Timeline.Run (some 1) ⟨[], [[{}, {}]], []⟩ limitedEvents
          ⟨[], [[⟨"a", ""⟩, {}]], [[[⟨"b", ""⟩, {}]]]⟩ ∧
        (∃ t, undo s = (.ok false, t)) ∧ ∃ t, redo s = (.ok true, t) := by
  have hnew : new {} Formula.Registry.standard (some 1) (some 2) (some 1) none = .ok limited := rfl
  obtain ⟨s, hreturns, htimeline⟩ : ∃ s,
      Session.Returns ⟨limited, ⟨.memory {}, [], .least⟩⟩ limitedEvents s ∧
        s.editor.timeline = ⟨[], [[⟨"a", ""⟩, {}]], [[[⟨"b", ""⟩, {}]]]⟩ :=
    ⟨_, .cons rfl (.cons rfl (.cons rfl (.nil _))), rfl⟩
  have h := timeline_of_new hnew hreturns
  rw [htimeline] at h
  exact ⟨hnew, s, hreturns, h⟩

end Spreadsheet

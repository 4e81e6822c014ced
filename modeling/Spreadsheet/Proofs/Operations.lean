import Spreadsheet.Editor
import Spreadsheet.Proofs.Json.Plain

/-!
What every operation of an editor does.

One equation per operation says what it answers, or how it fails, and which session it leaves
behind.  What is proved about sessions later rests on these equations and not on the definitions.
-/

namespace Spreadsheet

open Formula (Interruption)
open Store (StoreError)

namespace Action

variable {ε ε' σ α β : Type}

/-- An action that goes on answers if its first part answers and what follows does. -/
theorem bind_eq_ok_iff {x : Action ε σ α} {f : α → Action ε σ β} {s s' : σ} {b : β} :
    (x >>= f) s = (.ok b, s') ↔ ∃ a t, x s = (.ok a, t) ∧ f a t = (.ok b, s') := by
  rw [bind_apply]
  rcases hx : x s with ⟨a | a, t⟩
  · constructor
    · intro h
      cases h
    · rintro ⟨a', t', h, _⟩
      cases h
  · constructor
    · exact fun h => ⟨a, t, rfl, h⟩
    · rintro ⟨a', t', h, hf⟩
      cases h
      exact hf

/-- Leaving an answer out changes nothing else. -/
theorem discard_apply (x : Action ε σ α) (s : σ) :
    (discard x) s =
      match x s with
      | (.ok _, t) => (.ok (), t)
      | (.error e, t) => (.error e, t) :=
  rfl

/-- An action whose answer is put in other terms answers if it does. -/
theorem bind_pure_eq_ok_iff {x : Action ε σ α} {f : α → β} {s s' : σ} {b : β} :
    (x >>= fun a => pure (f a)) s = (.ok b, s') ↔ ∃ a, x s = (.ok a, s') ∧ f a = b := by
  rw [bind_eq_ok_iff]
  constructor
  · rintro ⟨a, t, hx, ha⟩
    cases ha
    exact ⟨a, hx, rfl⟩
  · rintro ⟨a, hx, rfl⟩
    exact ⟨a, s', hx, rfl⟩

/-- A failure that was put in other terms is in these terms. -/
theorem exists_of_mapError_eq_error {wrap : ε' → ε} {x : Action ε' σ α} {s : σ} {e : ε}
    (h : (mapError wrap x s).1 = .error e) : ∃ e', e = wrap e' := by
  rw [mapError_apply] at h
  cases hx : (x s).1 with
  | error e' =>
    rw [hx] at h
    cases h
    exact ⟨e', rfl⟩
  | ok a =>
    rw [hx] at h
    cases h

/-- What returns only on a condition has met it when it has returned. -/
theorem ite_eq_ok {p : Prop} [Decidable p] {a b : α} {e : ε} {s t u : σ}
    (h : (if p then (.ok a, t) else (.error e, u)) = ((.ok b, s) : Except ε α × σ)) :
    p ∧ a = b ∧ t = s := by
  by_cases hp : p
  · rw [if_pos hp] at h
    cases h
    exact ⟨hp, rfl, rfl⟩
  · rw [if_neg hp] at h
    cases h

/-- Putting an answer in other terms leaves the same state. -/
theorem bind_pure_snd (x : Action ε σ α) (f : α → β) (s : σ) :
    ((x >>= fun a => pure (f a)) s).2 = (x s).2 := by
  rw [bind_apply]
  rcases x s with ⟨_ | _, t⟩
  · rfl
  · rfl

@[simp]
theorem ofExcept_ok (wrap : ε' → ε) (a : α) (s : σ) :
    (ofExcept wrap (.ok a) : Action ε σ α) s = (.ok a, s) :=
  rfl

@[simp]
theorem ofExcept_error (wrap : ε' → ε) (e : ε') (s : σ) :
    (ofExcept wrap (.error e) : Action ε σ α) s = (.error (wrap e), s) :=
  rfl

end Action

/-- What follows an answer with its failure put in other terms only goes on after an answer. -/
theorem exists_of_mapError_bind_eq_ok {ε ε' α β : Type} {x : Except ε' α} {wrap : ε' → ε}
    {f : α → Except ε β} {b : β} (h : (x.mapError wrap >>= f) = .ok b) :
    ∃ a, x = .ok a ∧ f a = .ok b := by
  cases x with
  | error e => cases h
  | ok a => exact ⟨a, rfl, h⟩

/-- The session with more records in its log. -/
def Session.logged (s : Session) (records : List Record) : Session :=
  { s with host := { s.host with log := records.reverse ++ s.host.log } }

@[simp]
theorem Session.logged_editor (s : Session) (records : List Record) :
    (s.logged records).editor = s.editor :=
  rfl

@[simp]
theorem Session.run_nil (s : Session) : s.run [] = s :=
  rfl

theorem Session.run_cons (s : Session) (operation : Operation) (operations : List Operation) :
    s.run (operation :: operations) = (operation.perform s).2.run operations :=
  rfl

namespace Edit

@[simp]
theorem editor_apply (s : Session) : editor s = (.ok s.editor, s) :=
  rfl

@[simp]
theorem depthLimit_apply (s : Session) : depthLimit s = (.ok s.host.depthLimit, s) :=
  rfl

@[simp]
theorem modify_apply (f : Editor → Editor) (s : Session) :
    modify f s = (.ok (), { s with editor := f s.editor }) :=
  rfl

@[simp]
theorem note_apply (records : List Record) (s : Session) :
    note records s = (.ok (), s.logged records) :=
  rfl

@[simp]
theorem log_apply (severity : Severity) (message : String) (s : Session) :
    log severity message s = (.ok (), s.logged [⟨.editor, severity, message⟩]) :=
  rfl

theorem onHost_apply {α : Type} (x : Action StoreError Host α) (s : Session) :
    onHost x s =
      match x s.host with
      | (.ok a, host) => (.ok a, { s with host := host })
      | (.error e, host) => (.error (.store e), { s with host := host }) := by
  simp only [onHost, Action.onPart_apply, Action.mapError_apply]
  rcases x s.host with ⟨e | a, host⟩
  · rfl
  · rfl

/-- Other contents are taken exactly if they have the shape of the grid. -/
theorem restore_apply (contents : Snapshot) (s : Session) :
    restore contents s =
      if h : contents.HasShape s.editor.grid.rows s.editor.grid.cols then
        (.ok (), { s with editor :=
          { s.editor with grid := { s.editor.grid with cells := contents, shape := h } } })
      else (.error (.grid (.otherShape s.editor.grid.rows s.editor.grid.cols)), s) := by
  simp only [restore, Action.bind_apply, editor_apply, Grid.restore]
  by_cases h : contents.HasShape s.editor.grid.rows s.editor.grid.cols
  · simp only [dif_pos h, Action.ofExcept_ok, modify_apply]
  · simp only [dif_neg h, Action.ofExcept_error]

end Edit

namespace Editor

open Edit

theorem cell_apply (row col : Int) (s : Session) :
    cell row col s =
      if s.editor.grid.InBounds row col then
        (.ok (s.editor.grid.cellAt row.toNat col.toNat), s)
      else (.error (.grid (.outside row col s.editor.grid.rows s.editor.grid.cols)), s) := by
  simp only [cell, Action.bind_apply, editor_apply, Grid.get]
  by_cases h : s.editor.grid.InBounds row col
  · simp only [if_pos h, Action.ofExcept_ok]
  · simp only [if_neg h, Action.ofExcept_error]

theorem selectCell_apply (row col : Int) (s : Session) :
    selectCell row col s =
      if s.editor.grid.InBounds row col then
        (.ok (), { s with editor := { s.editor with
          selection := s.editor.selection.click ⟨row, col⟩
          bar := (s.editor.grid.cellAt row.toNat col.toNat).source } })
      else (.error (.grid (.outside row col s.editor.grid.rows s.editor.grid.cols)), s) := by
  rw [selectCell, Action.bind_apply, cell_apply]
  by_cases h : s.editor.grid.InBounds row col
  · simp only [if_pos h, modify_apply]
  · simp only [if_neg h]

theorem startDrag_apply (row col : Int) (s : Session) :
    startDrag row col s =
      if s.editor.grid.InBounds row col then
        (.ok (), { s with editor := { s.editor with selection := Selection.press ⟨row, col⟩ } })
      else (.error (.grid (.outside row col s.editor.grid.rows s.editor.grid.cols)), s) := by
  rw [startDrag, Action.bind_apply, Action.discard_apply, cell_apply]
  by_cases h : s.editor.grid.InBounds row col
  · simp only [if_pos h, modify_apply]
  · simp only [if_neg h]

theorem extendDrag_apply (row col : Int) (s : Session) :
    extendDrag row col s =
      if s.editor.grid.InBounds row col then
        (.ok (s.editor.selection.canGather ⟨row, col⟩),
          { s with editor := { s.editor with
            selection := s.editor.selection.enter ⟨row, col⟩ } })
      else (.error (.grid (.outside row col s.editor.grid.rows s.editor.grid.cols)), s) := by
  rw [extendDrag, Action.bind_apply, Action.discard_apply, cell_apply]
  by_cases h : s.editor.grid.InBounds row col
  · simp only [if_pos h, Action.bind_apply, editor_apply, modify_apply, Action.pure_apply]
  · simp only [if_neg h]

@[simp]
theorem endDrag_apply (s : Session) :
    endDrag s =
      (.ok (), { s with editor := { s.editor with selection := s.editor.selection.release } }) :=
  rfl

@[simp]
theorem resumeDrag_apply (s : Session) :
    resumeDrag s =
      (.ok s.editor.selection.active.isSome,
        { s with editor := { s.editor with selection := s.editor.selection.resume } }) :=
  rfl

@[simp]
theorem setBar_apply (text : String) (s : Session) :
    setBar text s = (.ok (), { s with editor := { s.editor with bar := text } }) :=
  rfl

theorem write_apply (row col : Int) (c : Cell) (s : Session) :
    write row col c s =
      if s.editor.grid.InBounds row col then
        (.ok c, { s with editor := { s.editor with
          grid := s.editor.grid.put row.toNat col.toNat c
          history := s.editor.history.record s.editor.grid.snapshot } })
      else (.error (.grid (.outside row col s.editor.grid.rows s.editor.grid.cols)), s) := by
  simp only [write, Action.bind_apply, editor_apply, Grid.set]
  by_cases h : s.editor.grid.InBounds row col
  · simp only [if_pos h, Action.ofExcept_ok, modify_apply, Action.pure_apply]
  · simp only [if_neg h, Action.ofExcept_error]

theorem cellOf_apply (text : String) (s : Session) :
    cellOf text s =
      if Formula.IsFormula text then
        match Formula.evaluate s.editor.registry s.editor.grid text with
        | .error e => (.error (.interruption e), s)
        | .ok outcome => (.ok ⟨outcome.display, text⟩, s.logged (outcome.records text))
      else (.ok ⟨text, ""⟩, s) := by
  rw [cellOf]
  by_cases h : Formula.IsFormula text
  · rw [if_pos h, if_pos h]
    simp only [Action.bind_apply, editor_apply]
    cases Formula.evaluate s.editor.registry s.editor.grid text with
    | error e => rfl
    | ok outcome => rfl
  · rw [if_neg h, if_neg h]
    rfl

/-- Making a cell leaves the editor as it was. -/
theorem cellOf_editor (text : String) (s : Session) :
    (cellOf text s).2.editor = s.editor := by
  rw [cellOf_apply]
  split
  · split
    · rfl
    · rfl
  · rfl

theorem apply_apply (s : Session) :
    Editor.apply s =
      match s.editor.selection.active with
      | none => (.ok none, s)
      | some target =>
        match cellOf s.editor.bar s with
        | (.error e, t) => (.error e, t)
        | (.ok c, t) =>
          match write target.row target.col c t with
          | (.error e, u) => (.error e, u)
          | (.ok c, u) => (.ok (some c), u) := by
  simp only [Editor.apply, Action.bind_apply, editor_apply]
  cases s.editor.selection.active with
  | none => rfl
  | some target =>
    simp only [Action.bind_apply]
    rcases cellOf s.editor.bar s with ⟨e | c, t⟩
    · rfl
    · simp only
      rcases write target.row target.col c t with ⟨e | c, u⟩
      · rfl
      · rfl

/-- An application that returns has written the cell that its text makes, if a cell is active. -/
theorem apply_eq_ok {c : Option Cell} {s s' : Session} (h : Editor.apply s = (.ok c, s')) :
    s.editor.selection.active = none ∧ c = none ∧ s' = s ∨
    ∃ target written t, s.editor.selection.active = some target ∧
      cellOf s.editor.bar s = (.ok written, t) ∧
      write target.row target.col written t = (.ok written, s') ∧ c = some written := by
  simp only [Editor.apply, Action.bind_apply, editor_apply] at h
  rcases hactive : s.editor.selection.active with _ | target
  · rw [hactive] at h
    cases h
    exact .inl ⟨rfl, rfl, rfl⟩
  · rw [hactive] at h
    obtain ⟨written, t, hcell, h⟩ := Action.bind_eq_ok_iff.mp h
    obtain ⟨written', hwrite, rfl⟩ := Action.bind_pure_eq_ok_iff.mp h
    have hsame : written' = written := by
      rw [write_apply] at hwrite
      exact (Action.ite_eq_ok hwrite).2.1.symm
    rw [hsame] at hwrite ⊢
    exact .inr ⟨target, written, t, rfl, hcell, hwrite, rfl⟩

/-- All that an application can do to an editor: nothing, or one write of the active cell. -/
theorem editor_apply_cases (s : Session) :
    (Editor.apply s).2.editor = s.editor ∨
    ∃ target c, s.editor.selection.active = some target ∧
      s.editor.grid.InBounds target.row target.col ∧
      (Editor.apply s).2.editor = { s.editor with
        grid := s.editor.grid.put target.row.toNat target.col.toNat c
        history := s.editor.history.record s.editor.grid.snapshot } := by
  rw [apply_apply]
  rcases hactive : s.editor.selection.active with _ | target
  · exact .inl rfl
  · have heditor := cellOf_editor s.editor.bar s
    rcases hcell : cellOf s.editor.bar s with ⟨e | c, t⟩
    · rw [hcell] at heditor
      exact .inl heditor
    · rw [hcell] at heditor
      dsimp only at heditor ⊢
      rw [write_apply, heditor]
      by_cases hin : s.editor.grid.InBounds target.row target.col
      · rw [if_pos hin]
        exact .inr ⟨target, c, rfl, hin, rfl⟩
      · rw [if_neg hin]
        exact .inl heditor

/-- The sweep of a recalculation. -/
def sweep (e : Editor) : Except Interruption Unit × Sweep :=
  Sweep.run e.registry e.grid.formulaCells { grid := e.grid }

theorem recalculate_apply (s : Session) :
    recalculate s =
      match s.editor.sweep with
      | (.error e, w) =>
        (.error (.interruption e),
          { s with editor := { s.editor with grid := w.grid } : Session }.logged w.records.reverse)
      | (.ok _, w) =>
        if w.changed = [] then
          (.ok [],
            { s with editor := { s.editor with grid := w.grid } : Session }.logged
              w.records.reverse)
        else
          let count := w.changed.length
          (.ok w.changed.reverse,
            ({ s with editor := { s.editor with
                grid := w.grid
                history := s.editor.history.record s.editor.grid.snapshot } : Session }.logged
              w.records.reverse).logged
                [⟨.editor, .debug, s!"Recalculated {count} formula cell(s)"⟩]) := by
  simp only [recalculate, Action.bind_apply, editor_apply, sweep]
  rcases Sweep.run s.editor.registry s.editor.grid.formulaCells { grid := s.editor.grid } with
    ⟨e | _, w⟩
  · rfl
  · simp only [modify_apply, note_apply, Action.ofExcept_ok]
    by_cases h : w.changed = []
    · rw [if_pos h, h]
      rfl
    · have hempty : ¬w.changed.reverse.isEmpty = true := by simpa using h
      rw [if_neg h, if_neg hempty, List.length_reverse]
      rfl

/-- Nothing happens to the editor without a state to go back to. -/
theorem undo_apply (s : Session) :
    undo s =
      match s.editor.history.past with
      | [] => (.ok false, s.logged [⟨.editor, .debug, "undo ignored: history is empty"⟩])
      | previous :: past =>
        let history : History Snapshot := { s.editor.history with
          past := past
          future := s.editor.grid.snapshot :: s.editor.history.future }
        let t : Session := { s with editor := { s.editor with history := history } }.logged
          [history.stepRecord "undo"]
        if h : previous.HasShape s.editor.grid.rows s.editor.grid.cols then
          (.ok true, { t with editor :=
            { t.editor with grid := { s.editor.grid with cells := previous, shape := h } } })
        else (.error (.grid (.otherShape s.editor.grid.rows s.editor.grid.cols)), t) := by
  simp only [undo, Action.bind_apply, editor_apply]
  cases hpast : s.editor.history.past with
  | nil =>
    rw [(History.undo_eq_error_iff _ _ _).mpr ⟨hpast, rfl⟩]
    rfl
  | cons previous past =>
    rw [(History.undo_eq_ok_iff _ _ _ _).mpr ⟨past, hpast, rfl⟩]
    simp only [Action.bind_apply, modify_apply, note_apply, restore_apply, Session.logged_editor]
    by_cases h : previous.HasShape s.editor.grid.rows s.editor.grid.cols
    · simp only [h, ↓reduceDIte, Action.pure_apply]
    · simp only [h, ↓reduceDIte]

theorem redo_apply (s : Session) :
    redo s =
      match s.editor.history.future with
      | [] => (.ok false, s.logged [⟨.editor, .debug, "redo ignored: history is empty"⟩])
      | next :: future =>
        let history : History Snapshot := { s.editor.history with
          past := s.editor.grid.snapshot :: s.editor.history.past
          future := future }
        let t : Session := { s with editor := { s.editor with history := history } }.logged
          [history.stepRecord "redo"]
        if h : next.HasShape s.editor.grid.rows s.editor.grid.cols then
          (.ok true, { t with editor :=
            { t.editor with grid := { s.editor.grid with cells := next, shape := h } } })
        else (.error (.grid (.otherShape s.editor.grid.rows s.editor.grid.cols)), t) := by
  simp only [redo, Action.bind_apply, editor_apply]
  cases hfuture : s.editor.history.future with
  | nil =>
    rw [(History.redo_eq_error_iff _ _ _).mpr ⟨hfuture, rfl⟩]
    rfl
  | cons next future =>
    rw [(History.redo_eq_ok_iff _ _ _ _).mpr ⟨future, hfuture, rfl⟩]
    simp only [Action.bind_apply, modify_apply, note_apply, restore_apply, Session.logged_editor]
    by_cases h : next.HasShape s.editor.grid.rows s.editor.grid.cols
    · simp only [h, ↓reduceDIte, Action.pure_apply]
    · simp only [h, ↓reduceDIte]

theorem save_apply (s : Session) :
    save s =
      match Host.set s.editor.storageKey (s.editor.grid.write {}) s.host with
      | (.error e, host) => (.error (.store e), { s with host := host })
      | (.ok _, host) =>
        let key := s.editor.storageKey
        (.ok (), { s with host := host : Session }.logged
          [⟨.editor, .info, s!"Saved grid under key '{key}'"⟩]) := by
  simp only [save, Action.bind_apply, editor_apply, onHost_apply]
  rcases Host.set s.editor.storageKey (s.editor.grid.write {}) s.host with ⟨e | _, host⟩
  · rfl
  · rfl

/-- A saved text is taken if it describes a grid of the same size, which becomes the grid then. -/
theorem accept_apply (key payload : String) (s : Session) :
    accept key payload s =
      match Grid.read s.host.depthLimit payload with
      | .error (.unreadable (.tooDeep container)) =>
        (.error (.document (.unreadable (.tooDeep container))), s)
      | .error e => (.error (.store (.persistence (.invalidSnapshot key e.message))), s)
      | .ok loaded =>
        if loaded.rows = s.editor.grid.rows ∧ loaded.cols = s.editor.grid.cols then
          (.ok (), { s with editor := { s.editor with grid := loaded } })
        else
          (.error (.store (.persistence (.otherSize key loaded.rows loaded.cols
            s.editor.grid.rows s.editor.grid.cols))), s) := by
  simp only [accept, Action.bind_apply, editor_apply, depthLimit_apply]
  cases Grid.read s.host.depthLimit payload with
  | error e =>
    cases e with
    | unreadable e => cases e <;> rfl
    | _ => rfl
  | ok loaded =>
    by_cases hsize : loaded.rows = s.editor.grid.rows ∧ loaded.cols = s.editor.grid.cols
    · have hrestore : s.editor.grid.restore loaded.snapshot = .ok loaded := by
        refine (Grid.restore_eq_ok_iff s.editor.grid loaded _).mpr ⟨?_, hsize.1, hsize.2, rfl⟩
        rw [← hsize.1, ← hsize.2]
        exact loaded.shape
      simp only [if_pos hsize, restore, Action.bind_apply, editor_apply, hrestore,
        Action.ofExcept_ok, modify_apply]
    · simp only [if_neg hsize]
      rfl

theorem load_apply (s : Session) :
    load s =
      let key := s.editor.storageKey
      match Host.get key s.host with
      | (.error e, host) => (.error (.store e), { s with host := host })
      | (.ok payload, host) =>
        let t : Session := { s with host := host }
        if payload.getD "" = "" then
          (.ok false, t.logged [⟨.editor, .info, s!"Nothing stored under key '{key}'"⟩])
        else
          match accept key (payload.getD "") t with
          | (.error e, u) => (.error e, u)
          | (.ok _, u) =>
            (.ok true, u.logged [⟨.editor, .info, s!"Loaded grid from key '{key}'"⟩]) := by
  simp only [load, Action.bind_apply, editor_apply, onHost_apply]
  rcases Host.get s.editor.storageKey s.host with ⟨e | payload, host⟩
  · rfl
  · simp only
    by_cases h : payload.getD "" = ""
    · rw [if_pos h, if_pos h]
      rfl
    · rw [if_neg h, if_neg h]
      simp only [Action.bind_apply]
      rcases accept s.editor.storageKey (payload.getD "") { s with host := host } with ⟨e | _, u⟩
      · rfl
      · rfl

/-- A text is taken, and then only the grid changes, or it is refused and nothing does. -/
theorem accept_cases (key payload : String) (s : Session) :
    (∃ e, accept key payload s = (.error e, s)) ∨
    ∃ loaded : Grid, loaded.rows = s.editor.grid.rows ∧ loaded.cols = s.editor.grid.cols ∧
      accept key payload s =
        (.ok (), { s with editor := { s.editor with grid := loaded } }) := by
  rw [accept_apply]
  split
  · exact .inl ⟨_, rfl⟩
  · exact .inl ⟨_, rfl⟩
  · next loaded _ =>
    by_cases hsize : loaded.rows = s.editor.grid.rows ∧ loaded.cols = s.editor.grid.cols
    · rw [if_pos hsize]
      exact .inr ⟨loaded, hsize.1, hsize.2, rfl⟩
    · rw [if_neg hsize]
      exact .inl ⟨_, rfl⟩

/-- All that a load can do to an editor. -/
theorem load_cases (s : Session) :
    (∃ e host, load s = (.error e, { s with host := host })) ∨
    (∃ host, load s = (.ok false, { s with host := host })) ∨
    ∃ (loaded : Grid) (host : Host), loaded.rows = s.editor.grid.rows ∧
      loaded.cols = s.editor.grid.cols ∧
      load s = (.ok true, ⟨{ s.editor with grid := loaded }, host⟩) := by
  rcases hget : Host.get s.editor.storageKey s.host with ⟨e | payload, host⟩
  · simp only [load_apply, hget]
    exact .inl ⟨_, host, rfl⟩
  · by_cases hempty : payload.getD "" = ""
    · simp only [load_apply, hget, if_pos hempty]
      exact .inr (.inl ⟨_, rfl⟩)
    · rcases accept_cases s.editor.storageKey (payload.getD "") { s with host := host } with
        ⟨e, haccept⟩ | ⟨loaded, hrows, hcols, haccept⟩
      · simp only [load_apply, hget, if_neg hempty, haccept]
        exact .inl ⟨e, host, rfl⟩
      · simp only [load_apply, hget, if_neg hempty, haccept]
        exact .inr (.inr ⟨loaded, _, hrows, hcols, rfl⟩)

/-- A grid that an editor has saved, of the size of the present one, takes its place. -/
theorem load_of_written {s : Session} {g : Grid} {host : Host}
    (hget : Host.get s.editor.storageKey s.host = (.ok (some (g.write {})), host))
    (hrows : g.rows = s.editor.grid.rows) (hcols : g.cols = s.editor.grid.cols) :
    ∃ records, load s = (.ok true,
      { s with editor := { s.editor with grid := g }, host := host : Session }.logged records) := by
  simp only [load_apply, hget, Option.getD_some, if_neg g.write_ne_empty, accept_apply,
    g.read_write_default, hrows, hcols, and_self, if_true]
  exact ⟨_, rfl⟩

end Editor

namespace Operation

/-- An operation leaves what the action behind it leaves; only the answer is put in other terms. -/
theorem perform_snd (operation : Operation) (s : Session) :
    (operation.perform s).2 =
      match operation with
      | .selectCell row col => (Editor.selectCell row col s).2
      | .startDrag row col => (Editor.startDrag row col s).2
      | .extendDrag row col => (Editor.extendDrag row col s).2
      | .endDrag => (Editor.endDrag s).2
      | .resumeDrag => (Editor.resumeDrag s).2
      | .setLiteral row col text => (Editor.setLiteral row col text s).2
      | .setBar text => (Editor.setBar text s).2
      | .apply => (Editor.apply s).2
      | .recalculate => (Editor.recalculate s).2
      | .undo => (Editor.undo s).2
      | .redo => (Editor.redo s).2
      | .save => (Editor.save s).2
      | .load => (Editor.load s).2 := by
  cases operation <;> exact Action.bind_pure_snd _ _ s

end Operation

end Spreadsheet

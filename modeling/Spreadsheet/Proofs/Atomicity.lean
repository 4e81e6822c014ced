import Spreadsheet.Proofs.WellFormed

/-!
Operations that fail leave the editor as it was.

A step of an operation is quiet (`Edit.IsQuiet`) if it never changes the editor, and sure
(`Edit.IsSure`) if it never fails.  An operation that takes its quiet steps first and a sure one
last is atomic (`Edit.IsAtomic`): when it fails, the editor is as it was.  All operations are built
so, but for three.  Undoing and redoing move the history before they restore a state; they cannot
fail, since all states have the size of the grid.  Recalculating writes cell by cell, and it is the
only operation that may fail half done.  `Editor.perform_atomic_of_new` says this of everything that
can be done with a new editor, and of saving and loading by whatever store there may be.
-/

namespace Spreadsheet

open Store (StoreError)

namespace Edit

variable {α β : Type} {x : Edit α} {f : α → Edit β}

/-- The action never changes the editor. -/
def IsQuiet (x : Edit α) : Prop :=
  ∀ s, (x s).2.editor = s.editor

/-- The action never fails. -/
def IsSure (x : Edit α) : Prop :=
  ∀ s, ∃ a t, x s = (.ok a, t)

/-- The action leaves the editor as it was when it fails. -/
def IsAtomic (x : Edit α) : Prop :=
  ∀ s fault t, x s = (.error fault, t) → t.editor = s.editor

/-! ### Steps one after the other -/

theorem IsQuiet.isAtomic (hx : IsQuiet x) : IsAtomic x := by
  intro s fault t h
  rw [← hx s, h]

theorem IsSure.isAtomic (hx : IsSure x) : IsAtomic x := by
  intro s fault t h
  obtain ⟨a, u, hreturns⟩ := hx s
  rw [hreturns] at h
  cases h

theorem IsQuiet.bind (hx : IsQuiet x) (hf : ∀ a, IsQuiet (f a)) : IsQuiet (x >>= f) := by
  intro s
  have hfirst := hx s
  rw [Action.bind_apply]
  rcases hrun : x s with ⟨e | a, t⟩
  · rw [hrun] at hfirst
    exact hfirst
  · rw [hrun] at hfirst
    exact (hf a t).trans hfirst

theorem IsSure.bind (hx : IsSure x) (hf : ∀ a, IsSure (f a)) : IsSure (x >>= f) := by
  intro s
  obtain ⟨a, t, hrun⟩ := hx s
  rw [Action.bind_apply_ok hrun]
  exact hf a t

/-- Nothing has changed yet when an atomic action follows a quiet one. -/
theorem IsQuiet.bind_isAtomic (hx : IsQuiet x) (hf : ∀ a, IsAtomic (f a)) :
    IsAtomic (x >>= f) := by
  intro s fault t h
  have hfirst := hx s
  rw [Action.bind_apply] at h
  rcases hrun : x s with ⟨e | a, u⟩
  · rw [hrun] at hfirst h
    cases h
    exact hfirst
  · rw [hrun] at hfirst h
    exact (hf a u fault t h).trans hfirst

/-- Nothing can fail any more when a sure action follows an atomic one. -/
theorem IsAtomic.bind_isSure (hx : IsAtomic x) (hf : ∀ a, IsSure (f a)) :
    IsAtomic (x >>= f) := by
  intro s fault t h
  rw [Action.bind_apply] at h
  rcases hrun : x s with ⟨e | a, u⟩
  · rw [hrun] at h
    cases h
    exact hx s _ _ hrun
  · rw [hrun] at h
    change f a u = _ at h
    obtain ⟨b, v, hreturns⟩ := hf a u
    rw [hreturns] at h
    cases h

/-! ### Single steps -/

theorem isSure_pure (a : α) : IsSure (pure a : Edit α) :=
  fun s => ⟨a, s, rfl⟩

theorem isQuiet_fail (fault : Fault) : IsQuiet (Action.fail fault : Edit α) :=
  fun _ => rfl

theorem isQuiet_editor : IsQuiet editor :=
  fun _ => rfl

theorem isQuiet_depthLimit : IsQuiet depthLimit :=
  fun _ => rfl

theorem isSure_modify (change : Editor → Editor) : IsSure (modify change) :=
  fun _ => ⟨(), _, rfl⟩

theorem isSure_log (severity : Severity) (message : String) : IsSure (log severity message) :=
  fun _ => ⟨(), _, rfl⟩

theorem isQuiet_log (severity : Severity) (message : String) : IsQuiet (log severity message) :=
  fun _ => rfl

theorem isQuiet_ofExcept {ε : Type} (wrap : ε → Fault) (answer : Except ε α) :
    IsQuiet (Action.ofExcept wrap answer : Edit α) := by
  cases answer with
  | error e => exact fun _ => rfl
  | ok a => exact fun _ => rfl

/-- What is done outside of the editor does not change it. -/
theorem isQuiet_onHost (action : Action StoreError Host α) : IsQuiet (onHost action) := by
  intro s
  rw [onHost_apply]
  rcases action s.host with ⟨e | a, host⟩
  · rfl
  · rfl

theorem IsQuiet.discard (hx : IsQuiet x) : IsQuiet (discard x) := by
  intro s
  have hfirst := hx s
  rw [Action.discard_apply]
  rcases hrun : x s with ⟨e | a, t⟩
  · rw [hrun] at hfirst
    exact hfirst
  · rw [hrun] at hfirst
    exact hfirst

theorem isAtomic_restore (contents : Snapshot) : IsAtomic (restore contents) := by
  unfold restore
  refine isQuiet_editor.bind_isAtomic fun e => ?_
  exact (isQuiet_ofExcept _ _).bind_isAtomic fun grid => (isSure_modify _).isAtomic

end Edit

namespace Editor

open Edit

theorem isQuiet_cell (row col : Int) : IsQuiet (cell row col) := by
  unfold cell
  exact isQuiet_editor.bind fun e => isQuiet_ofExcept _ _

theorem isAtomic_selectCell (row col : Int) : IsAtomic (selectCell row col) := by
  unfold selectCell
  exact (isQuiet_cell row col).bind_isAtomic fun c => (isSure_modify _).isAtomic

theorem isAtomic_startDrag (row col : Int) : IsAtomic (startDrag row col) := by
  unfold startDrag
  exact (isQuiet_cell row col).discard.bind_isAtomic fun _ => (isSure_modify _).isAtomic

theorem isAtomic_extendDrag (row col : Int) : IsAtomic (extendDrag row col) := by
  unfold extendDrag
  refine (isQuiet_cell row col).discard.bind_isAtomic fun _ => ?_
  refine isQuiet_editor.bind_isAtomic fun e => ?_
  exact ((isSure_modify _).bind fun _ => isSure_pure _).isAtomic

/-- The grid and the history change in the last step, after the cell was found. -/
theorem isAtomic_write (row col : Int) (c : Cell) : IsAtomic (write row col c) := by
  unfold write
  refine isQuiet_editor.bind_isAtomic fun e => isQuiet_editor.bind_isAtomic fun e' => ?_
  refine (isQuiet_ofExcept _ _).bind_isAtomic fun grid => ?_
  exact ((isSure_modify _).bind fun _ => isSure_pure c).isAtomic

theorem isQuiet_cellOf (text : String) : IsQuiet (cellOf text) :=
  fun s => cellOf_editor text s

/-- The formula is evaluated before anything is written. -/
theorem isAtomic_apply : IsAtomic Editor.apply := by
  unfold Editor.apply
  refine isQuiet_editor.bind_isAtomic fun e => ?_
  cases e.selection.active with
  | none => exact (isSure_pure none).isAtomic
  | some target =>
    refine (isQuiet_cellOf e.bar).bind_isAtomic fun c => ?_
    exact (isAtomic_write target.row target.col c).bind_isSure fun written => isSure_pure _

/-- A text is read, and its size compared, before it is taken. -/
theorem isAtomic_accept (key payload : String) : IsAtomic (accept key payload) := by
  unfold accept
  refine isQuiet_editor.bind_isAtomic fun e => isQuiet_depthLimit.bind_isAtomic fun limit => ?_
  split
  · exact (isQuiet_fail _).isAtomic
  · exact (isQuiet_fail _).isAtomic
  · split
    · exact isAtomic_restore _
    · exact (isQuiet_fail _).isAtomic

/-! ### Saving and loading by any store -/

/-- Saves the grid under the editor's key, by any way to set a text. -/
def saveBy (set : String → String → Action StoreError Host Unit) : Edit Unit := do
  let e ← editor
  let key := e.storageKey
  onHost (set key (e.grid.write {}))
  log .info s!"Saved grid under key '{key}'"

/-- Loads the grid that is saved under the editor's key, by any way to read a text. -/
def loadBy (get : String → Action StoreError Host (Option String)) : Edit Bool := do
  let key := (← editor).storageKey
  let payload := (← onHost (get key)).getD ""
  if payload = "" then
    log .info s!"Nothing stored under key '{key}'"
    return false
  else
    accept key payload
    log .info s!"Loaded grid from key '{key}'"
    return true

theorem save_eq_saveBy : save = saveBy Host.set :=
  rfl

theorem load_eq_loadBy : load = loadBy Host.get :=
  rfl

theorem isQuiet_saveBy (set : String → String → Action StoreError Host Unit) :
    IsQuiet (saveBy set) := by
  unfold saveBy
  refine isQuiet_editor.bind fun e => ?_
  exact (isQuiet_onHost _).bind fun _ => isQuiet_log _ _

theorem isAtomic_loadBy (get : String → Action StoreError Host (Option String)) :
    IsAtomic (loadBy get) := by
  unfold loadBy
  refine isQuiet_editor.bind_isAtomic fun e => ?_
  refine (isQuiet_onHost _).bind_isAtomic fun payload => ?_
  dsimp only
  split
  · exact ((isSure_log _ _).bind fun _ => isSure_pure false).isAtomic
  · refine (isAtomic_accept _ _).bind_isSure fun _ => ?_
    exact (isSure_log _ _).bind fun _ => isSure_pure true

end Editor

namespace Operation

open Edit Editor

/-- Every operation is atomic, but for those that go over states and over formulas. -/
theorem isAtomic_perform {operation : Operation} (hrecalculate : operation ≠ .recalculate)
    (hundo : operation ≠ .undo) (hredo : operation ≠ .redo) : IsAtomic operation.perform := by
  cases operation with
  | selectCell row col => exact (isAtomic_selectCell row col).bind_isSure fun _ => isSure_pure _
  | startDrag row col => exact (isAtomic_startDrag row col).bind_isSure fun _ => isSure_pure _
  | extendDrag row col => exact (isAtomic_extendDrag row col).bind_isSure fun _ => isSure_pure _
  | endDrag => exact ((isSure_modify _).bind fun _ => isSure_pure _).isAtomic
  | resumeDrag =>
    have hsure : IsSure Editor.resumeDrag := fun _ => ⟨_, _, rfl⟩
    exact (hsure.bind fun _ => isSure_pure _).isAtomic
  | setLiteral row col text =>
    exact (isAtomic_write row col ⟨text, ""⟩).bind_isSure fun _ => isSure_pure _
  | setBar text => exact ((isSure_modify _).bind fun _ => isSure_pure _).isAtomic
  | apply => exact isAtomic_apply.bind_isSure fun _ => isSure_pure _
  | recalculate => exact absurd rfl hrecalculate
  | undo => exact absurd rfl hundo
  | redo => exact absurd rfl hredo
  | save =>
    rw [perform, save_eq_saveBy]
    exact (isQuiet_saveBy Host.set).isAtomic.bind_isSure fun _ => isSure_pure _
  | load =>
    rw [perform, load_eq_loadBy]
    exact (isAtomic_loadBy Host.get).bind_isSure fun _ => isSure_pure _

end Operation

namespace Editor

open Edit

/-- Where all states have the size of the grid, every operation other than a recalculation leaves
the editor as it was when it fails. -/
theorem IsShaped.editor_of_perform_eq_error {s t : Session} (hshaped : s.editor.IsShaped)
    {operation : Operation} (hrecalculate : operation ≠ .recalculate) {fault : Fault}
    (h : operation.perform s = (.error fault, t)) : t.editor = s.editor := by
  by_cases hundo : operation = .undo
  · obtain ⟨u, hreturns⟩ := undo_returns hshaped
    rw [hundo, Operation.perform, Action.bind_apply_ok hreturns] at h
    cases h
  by_cases hredo : operation = .redo
  · obtain ⟨u, hreturns⟩ := redo_returns hshaped
    rw [hredo, Operation.perform, Action.bind_apply_ok hreturns] at h
    cases h
  exact Operation.isAtomic_perform hrecalculate hundo hredo s fault t h

/-- **An operation that fails leaves the editor as it was.**  Whatever was done with a new editor
before, and whatever the store holds or refuses, no operation other than a recalculation changes the
grid, the history, the selection or the formula bar and then fails.  Saving and loading do not even
if the store is of another kind: its answers and failures, and what it does meanwhile to all that is
outside of the editor, may be any. -/
theorem perform_atomic_of_new {settings : Settings} {registry : Formula.Registry}
    {rows cols historyLimit : Option Int} {storageKey : Option String} {e : Editor}
    (hnew : new settings registry rows cols historyLimit storageKey = .ok e)
    (steps : List (Host × Operation)) (host : Host) :
    (∀ operation : Operation, operation ≠ .recalculate → ∀ fault t,
      operation.perform ⟨e.after steps, host⟩ = (.error fault, t) →
        t.editor = e.after steps) ∧
    (∀ (set : String → String → Action StoreError Host Unit) (fault : Fault) (t : Session),
      saveBy set ⟨e.after steps, host⟩ = (.error fault, t) → t.editor = e.after steps) ∧
    ∀ (get : String → Action StoreError Host (Option String)) (fault : Fault) (t : Session),
      loadBy get ⟨e.after steps, host⟩ = (.error fault, t) → t.editor = e.after steps := by
  have hshaped : (e.after steps).IsShaped := ((isWellFormed_new hnew).after steps).isShaped
  refine ⟨fun operation hrecalculate fault t h => ?_, fun set => ?_, fun get => ?_⟩
  · exact IsShaped.editor_of_perform_eq_error (s := ⟨e.after steps, host⟩) hshaped hrecalculate h
  · exact (isQuiet_saveBy set).isAtomic ⟨e.after steps, host⟩
  · exact isAtomic_loadBy get ⟨e.after steps, host⟩

/-- A drag into a cell outside of the grid, a refused save and a load of a broken text fail, and the
drag is still where it was. -/
theorem perform_atomic_of_new_groping :
    let s : Session := ⟨small.after gropingSteps, ⟨.memory {}, [], .least⟩⟩
    ∃ (dragged saved loaded : Session) (detail : String),
      (Operation.extendDrag 7 7).perform s = (.error (.grid (.outside 7 7 1 2)), dragged) ∧
      saveBy (fun _ _ => Action.fail .nulInPath) s = (.error (.store .nulInPath), saved) ∧
      loadBy (fun _ => pure (some "[")) s =
        (.error (.store (.persistence (.invalidSnapshot "spreadsheet" detail))), loaded) ∧
      dragged.editor = s.editor ∧ saved.editor = s.editor ∧ loaded.editor = s.editor := by
  intro s
  obtain ⟨hperform, hsave, hload⟩ :=
    perform_atomic_of_new new_small gropingSteps ⟨.memory {}, [], .least⟩
  exact ⟨_, _, _, _, rfl, rfl, rfl, hperform (.extendDrag 7 7) nofun _ _ rfl,
    hsave (fun _ _ => Action.fail .nulInPath) _ _ rfl, hload (fun _ => pure (some "[")) _ _ rfl⟩

end Editor

end Spreadsheet

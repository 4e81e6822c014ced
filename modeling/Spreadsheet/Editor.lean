import Spreadsheet.Fault
import Spreadsheet.Selection
import Spreadsheet.Store

/-!
The editor.

An `Editor` joins a grid, a selection, a formula bar and a history.  Its operations work on a
`Session`, an editor with the store and the log around it.  A formula is evaluated when it is
applied; what it reads may change later without it, until everything is recalculated.  Every change
of cells is recorded in the history, with the contents before it.
-/

namespace Spreadsheet

open Formula (Interruption Registry)
open Store (PersistenceError StoreError)

/-- A grid with what is selected in it, the history of its contents, the reducers that formulas may
call, the key that it is saved under, and the text in the formula bar. -/
structure Editor where
  grid : Grid
  selection : Selection := {}
  history : History Snapshot
  registry : Registry
  storageKey : String
  bar : String := ""

/-- An editor and what it shares with others. -/
structure Session where
  editor : Editor
  host : Host

/-- A sweep over formula cells: the grid, and the cells changed and the records logged so far, the
last first. -/
structure Sweep where
  grid : Grid
  changed : List CellRef := []
  records : List Record := []

namespace Sweep

/-- Evaluates the formula of a cell on the grid as it is now, and writes the result if it differs
from what the cell showed. -/
def visit (registry : Registry) (entry : CellRef × Cell) : Action Interruption Sweep Unit :=
  fun s =>
    match Formula.evaluate registry s.grid entry.2.formula with
    | .error e => (.error e, s)
    | .ok outcome =>
      let records := (outcome.records entry.2.formula).reverse ++ s.records
      if outcome.display = entry.2.value then (.ok (), { s with records := records })
      else
        let cell : Cell := ⟨outcome.display, entry.2.formula⟩
        (.ok (), {
          grid := s.grid.put entry.1.row.toNat entry.1.col.toNat cell
          changed := entry.1 :: s.changed
          records := records })

/-- Visits cells one after the other. -/
def run (registry : Registry) : List (CellRef × Cell) → Action Interruption Sweep Unit
  | [] => pure ()
  | entry :: entries => do
    visit registry entry
    run registry entries

end Sweep

/-- What an operation of an editor does: it may fail, and changes the session. -/
abbrev Edit (α : Type) := Action Fault Session α

namespace Edit

/-- The editor of the session. -/
def editor : Edit Editor := fun s =>
  (.ok s.editor, s)

/-- Changes the editor of the session. -/
def modify (f : Editor → Editor) : Edit Unit :=
  Action.update fun s => { s with editor := f s.editor }

/-- An action on what the editor shares with others. -/
def onHost {α : Type} (x : Action StoreError Host α) : Edit α :=
  Action.onPart Session.host (fun host s => { s with host := host }) (Action.mapError Fault.store x)

/-- How deep a saved text may nest. -/
def depthLimit : Edit DepthLimit := fun s =>
  (.ok s.host.depthLimit, s)

/-- Adds records to the log. -/
def note (records : List Record) : Edit Unit :=
  onHost (Host.note records)

/-- Adds a record of the editor's own to the log. -/
def log (severity : Severity) (message : String) : Edit Unit :=
  note [⟨.editor, severity, message⟩]

/-- Fails with a failure to save or load. -/
def refuse {α : Type} (e : PersistenceError) : Edit α :=
  Action.fail (.store (.persistence e))

/-- Takes other contents for the grid. -/
def restore (s : Snapshot) : Edit Unit := do
  let grid ← Action.ofExcept Fault.grid ((← editor).grid.restore s)
  modify ({ · with grid := grid })

end Edit

namespace Editor

open Edit

/-- An editor with an empty grid.  What is not given comes from the settings, a key also if it is
empty. -/
def new (settings : Settings) (registry : Registry) (rows cols historyLimit : Option Int)
    (storageKey : Option String) : Except Fault Editor := do
  let grid ← (Grid.new (rows.getD settings.rows) (cols.getD settings.cols)).mapError Fault.grid
  let limit := match historyLimit with
    | some n => some n
    | none => settings.historyLimit
  let history ← (History.new limit).mapError Fault.history
  let key := match storageKey with
    | none | some "" => settings.storageKey
    | some key => key
  return { grid := grid, history := history, registry := registry, storageKey := key }

/-- The cell at a place; there must be one. -/
def cell (row col : Int) : Edit Cell := do
  Action.ofExcept Fault.grid ((← editor).grid.get row col)

/-- Makes a cell active and shows what there is to edit in it. -/
def selectCell (row col : Int) : Edit Unit := do
  let c ← cell row col
  modify fun e => { e with selection := e.selection.click ⟨row, col⟩, bar := c.source }

/-- Begins a drag at a cell. -/
def startDrag (row col : Int) : Edit Unit := do
  discard <| cell row col
  modify fun e => { e with selection := Selection.press ⟨row, col⟩ }

/-- Goes on with a drag over a cell; the answer is whether the cell was gathered. -/
def extendDrag (row col : Int) : Edit Bool := do
  discard <| cell row col
  let gathers := (← editor).selection.canGather ⟨row, col⟩
  modify fun e => { e with selection := e.selection.enter ⟨row, col⟩ }
  return gathers

/-- Ends a drag. -/
def endDrag : Edit Unit :=
  modify fun e => { e with selection := e.selection.release }

/-- Resumes a drag from the active cell; the answer is whether there is one. -/
def resumeDrag : Edit Bool := do
  let resumes := (← editor).selection.active.isSome
  modify fun e => { e with selection := e.selection.resume }
  return resumes

/-- Writes a cell, with the contents before it recorded in the history. -/
def write (row col : Int) (c : Cell) : Edit Cell := do
  let before := (← editor).grid.snapshot
  let grid ← Action.ofExcept Fault.grid ((← editor).grid.set row col c)
  modify fun e => { e with grid := grid, history := e.history.record before }
  return c

/-- Puts a text into a cell as it is. -/
def setLiteral (row col : Int) (text : String) : Edit Cell :=
  write row col ⟨text, ""⟩

/-- Puts a text into the formula bar. -/
def setBar (text : String) : Edit Unit :=
  modify ({ · with bar := text })

/-- The cell that a text makes: of a formula the evaluated one, of any other text a literal. -/
def cellOf (text : String) : Edit Cell := do
  if Formula.IsFormula text then
    let e ← editor
    let outcome ← Action.ofExcept Fault.interruption (Formula.evaluate e.registry e.grid text)
    note (outcome.records text)
    return ⟨outcome.display, text⟩
  else return ⟨text, ""⟩

/-- Writes the text of the formula bar into the active cell, if there is one. -/
def apply : Edit (Option Cell) := do
  let e ← editor
  match e.selection.active with
  | none => return none
  | some target =>
    let c ← cellOf e.bar
    return some (← write target.row target.col c)

/-- Evaluates all formula cells again, row by row, each on the grid as the ones before it left it.
The answer is the cells that changed; if there are any, one step is recorded in the history. -/
def recalculate : Edit (List CellRef) := do
  let e ← editor
  let before := e.grid.snapshot
  let (answer, sweep) := Sweep.run e.registry e.grid.formulaCells { grid := e.grid }
  modify ({ · with grid := sweep.grid })
  note sweep.records.reverse
  Action.ofExcept Fault.interruption answer
  let changed := sweep.changed.reverse
  if changed.isEmpty then return []
  modify fun e => { e with history := e.history.record before }
  let count := changed.length
  log .debug s!"Recalculated {count} formula cell(s)"
  return changed

/-- Takes the contents before the last change again; the answer is whether there are any. -/
def undo : Edit Bool := do
  let e ← editor
  match e.history.undo e.grid.snapshot with
  | .error _ =>
    log .debug "undo ignored: history is empty"
    return false
  | .ok (previous, history) =>
    modify ({ · with history := history })
    note [history.stepRecord "undo"]
    restore previous
    return true

/-- Takes the contents back that were last undone; the answer is whether there are any. -/
def redo : Edit Bool := do
  let e ← editor
  match e.history.redo e.grid.snapshot with
  | .error _ =>
    log .debug "redo ignored: history is empty"
    return false
  | .ok (next, history) =>
    modify ({ · with history := history })
    note [history.stepRecord "redo"]
    restore next
    return true

/-- Saves the grid under the editor's key. -/
def save : Edit Unit := do
  let e ← editor
  let key := e.storageKey
  onHost (Host.set key (e.grid.write {}))
  log .info s!"Saved grid under key '{key}'"

/-- Takes the contents that a saved text describes; they must have the size of the editor's grid. -/
def accept (key payload : String) : Edit Unit := do
  let e ← editor
  match Grid.read (← depthLimit) payload with
  | .error (.unreadable (.tooDeep container)) =>
    Action.fail (.document (.unreadable (.tooDeep container)))
  | .error error => refuse (.invalidSnapshot key error.message)
  | .ok loaded =>
    if loaded.rows = e.grid.rows ∧ loaded.cols = e.grid.cols then restore loaded.snapshot
    else refuse (.otherSize key loaded.rows loaded.cols e.grid.rows e.grid.cols)

/-- Loads the grid that is saved under the editor's key; the answer is whether there is one.  It
must have the size of the editor's grid, and the history does not change. -/
def load : Edit Bool := do
  let key := (← editor).storageKey
  let payload := (← onHost (Host.get key)).getD ""
  if payload = "" then
    log .info s!"Nothing stored under key '{key}'"
    return false
  else
    accept key payload
    log .info s!"Loaded grid from key '{key}'"
    return true

end Editor

/-- The operations of an editor. -/
inductive Operation where
  | selectCell (row col : Int)
  | startDrag (row col : Int)
  | extendDrag (row col : Int)
  | endDrag
  | resumeDrag
  | setLiteral (row col : Int) (text : String)
  | setBar (text : String)
  | apply
  | recalculate
  | undo
  | redo
  | save
  | load
deriving DecidableEq, Repr

/-- What an operation answers. -/
inductive Answer where
  | done
  | flag (b : Bool)
  | cell (c : Option Cell)
  | changed (refs : List CellRef)
deriving DecidableEq, Repr

namespace Operation

/-- Performs an operation. -/
def perform : Operation → Edit Answer
  | .selectCell row col => do Editor.selectCell row col; return .done
  | .startDrag row col => do Editor.startDrag row col; return .done
  | .extendDrag row col => return .flag (← Editor.extendDrag row col)
  | .endDrag => do Editor.endDrag; return .done
  | .resumeDrag => return .flag (← Editor.resumeDrag)
  | .setLiteral row col text => return .cell (some (← Editor.setLiteral row col text))
  | .setBar text => do Editor.setBar text; return .done
  | .apply => return .cell (← Editor.apply)
  | .recalculate => return .changed (← Editor.recalculate)
  | .undo => return .flag (← Editor.undo)
  | .redo => return .flag (← Editor.redo)
  | .save => do Editor.save; return .done
  | .load => return .flag (← Editor.load)

end Operation

/-- The session after operations one after the other, whether they fail or not. -/
def Session.run (s : Session) (operations : List Operation) : Session :=
  operations.foldl (fun s operation => (operation.perform s).2) s

end Spreadsheet

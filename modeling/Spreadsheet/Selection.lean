import Spreadsheet.Reference

/-!
Selecting cells.

A click makes one cell active.  Pressing on a cell makes it active and begins a drag, during which
every cell that the pointer enters is gathered, each once and in the order of entry.  Letting go
ends the drag and keeps what was gathered; a drag may be resumed from the active cell.
-/

namespace Spreadsheet

/-- Whether a drag is going on. -/
inductive Phase where
  | idle
  | dragging
deriving DecidableEq, Repr

/-- The name of a phase. -/
def Phase.name : Phase → String
  | .idle => "idle"
  | .dragging => "dragging"

/-- The active cell, the cells gathered by dragging in the order of entry, and the phase. -/
structure Selection where
  active : Option CellRef := none
  gathered : List CellRef := []
  phase : Phase := .idle
deriving DecidableEq, Repr

namespace Selection

/-- What the pointer does. -/
inductive Event where
  | click (cell : CellRef)
  | press (cell : CellRef)
  | enter (cell : CellRef)
  | release
  | resume
  | clear
deriving DecidableEq, Repr

/-- A drag is going on. -/
def isDragging (s : Selection) : Bool :=
  s.phase == .dragging

/-- Makes a cell active and drops what was gathered.  The phase stays as it is. -/
def click (s : Selection) (cell : CellRef) : Selection :=
  { s with active := some cell, gathered := [] }

/-- Begins a drag at a cell. -/
def press (cell : CellRef) : Selection where
  active := some cell
  gathered := [cell]
  phase := .dragging

/-- A drag is going on and the cell is not gathered yet. -/
def canGather (s : Selection) (cell : CellRef) : Bool :=
  s.isDragging && !s.gathered.contains cell

/-- Gathers a cell if a drag is going on and the cell is new. -/
def enter (s : Selection) (cell : CellRef) : Selection :=
  if s.canGather cell then { s with gathered := s.gathered ++ [cell] } else s

/-- Ends the drag. -/
def release (s : Selection) : Selection :=
  { s with phase := .idle }

/-- Goes on dragging from the active cell, if there is one. -/
def resume (s : Selection) : Selection :=
  if s.active.isSome then { s with phase := .dragging } else s

/-- What one event does, and its answer: whether a cell was gathered, or a drag resumed. -/
def step (s : Selection) : Event → Option Bool × Selection
  | .click cell => (none, s.click cell)
  | .press cell => (none, press cell)
  | .enter cell => (some (s.canGather cell), s.enter cell)
  | .release => (none, s.release)
  | .resume => (some s.active.isSome, s.resume)
  | .clear => (none, {})

/-- The selection after a sequence of events. -/
def run (s : Selection) (events : List Event) : Selection :=
  events.foldl (fun s event => (s.step event).2) s

/-- The selection with all that it holds. -/
def describe (s : Selection) : String :=
  let active := match s.active with
    | none => "None"
    | some cell => cell.describe
  let gathered := Text.bracketed (s.gathered.map CellRef.describe)
  let phase := Text.quoted s.phase.name
  s!"SelectionModel(selected_cell={active}, multi_select={gathered}, state={phase})"

end Selection

end Spreadsheet

import Spreadsheet.Editor

/-!
A walk through the editor.

The walk fills a few cells, applies formulas, shows that a formula goes stale until everything is
recalculated, goes back and forth in the history, and saves the grid: into a file, or with the
arguments `--sheets` and a title into a book of the sheets service.  `Walkthrough.run` gives all
that the walk prints and leaves behind.
-/

namespace Spreadsheet.Walkthrough

open Store (Disk Files Path Service ServiceError Sheets StoreError)

/-- How a walk ends. -/
inductive Ending where
  | finished
  | exit (code : Nat)
  | failed (fault : Fault)

/-- What a walk leaves behind: how it ended, what it printed, the disk, the service and the log, the
last line and record first. -/
structure Report where
  ending : Ending
  printed : List String
  disk : Disk
  service : Service
  log : List Record

/-- A session with the lines printed so far, the last one first. -/
structure Stage where
  session : Session
  printed : List String := []

/-- A part of the walk. -/
abbrev Walk (α : Type) := Action Fault Stage α

/-- Prints a line. -/
def say (line : String) : Walk Unit :=
  Action.update fun s => { s with printed := line :: s.printed }

/-- Does something with the editor. -/
def edit {α : Type} (x : Edit α) : Walk α :=
  Action.onPart Stage.session (fun session s => { s with session := session }) x

/-- The value that a cell shows. -/
def valueAt (row col : Int) : Walk String := do
  return (← edit (Editor.cell row col)).value

/-- Applies a formula in a cell of the second column. -/
def enterFormula (row : Int) (formula : String) : Walk Unit := do
  edit (Editor.selectCell row 1)
  edit (Editor.setBar formula)
  discard <| edit Editor.apply

/-- The lines above the walk. -/
def banner : List String :=
  let rule := "".pushn '=' 60
  [rule, "cellgrid editor demo", rule]

/-- The walk itself. -/
def walk : Walk Unit := do
  banner.forM say
  discard <| edit (Editor.setLiteral 0 0 "12")
  discard <| edit (Editor.setLiteral 1 0 "7.5")
  discard <| edit (Editor.setLiteral 2 0 "n/a")
  discard <| edit (Editor.setLiteral 3 0 "30")
  enterFormula 0 "=SUM(A1:A4)"
  enterFormula 1 "=AVERAGE(A1:A4)"
  enterFormula 2 "=MEDIAN(A1:A4)"
  let e ← edit Edit.editor
  ((Frame.ofGrid false e.grid).top 4 ["A", "B"]).lines.forM say
  say ""
  discard <| edit (Editor.setLiteral 0 0 "100")
  say ("B1 after editing A1 (stale):   " ++ (← valueAt 0 1))
  discard <| edit Editor.recalculate
  say ("B1 after recalculate():        " ++ (← valueAt 0 1))
  discard <| edit Editor.undo
  discard <| edit Editor.undo
  say ("A1 after two undos:            " ++ (← valueAt 0 0))
  discard <| edit Editor.redo
  say ("A1 after redo:                 " ++ (← valueAt 0 0))
  edit Editor.save
  let s ← Action.state
  let key := s.session.editor.storageKey
  let store := s.session.host.store.describe
  say ""
  say s!"Saved under key '{key}' using {store}"

/-- Asks the service for access, in its two ways. -/
def connect : Action ServiceError Service Unit := do
  match ← Action.attempt (Service.call .serviceAccount) with
  | .ok _ => return ()
  | .error _ => Service.call .oauth

/-- Walks with a store, and reports.  The walk loads nothing, so that any limit for reading will
do. -/
def walkWith (settings : Settings) (store : Store) (log : List Record) (disk : Disk)
    (service : Service) : Report :=
  match Editor.new settings Formula.Registry.standard none none none none with
  | .error fault => ⟨.failed fault, [], disk, service, log⟩
  | .ok editor =>
    let (answer, stage) := walk { session := ⟨editor, ⟨store, log, .least⟩⟩ }
    let ending := match answer with
      | .ok _ => Ending.finished
      | .error fault => .failed fault
    let host := stage.session.host
    match host.store with
    | .memory _ => ⟨ending, stage.printed, disk, service, host.log⟩
    | .files _ disk' => ⟨ending, stage.printed, disk', service, host.log⟩
    | .sheets _ service' => ⟨ending, stage.printed, disk, service', host.log⟩

/-- Walks with a book of the service. -/
def walkWithBook (settings : Settings) (title : String) (disk : Disk) (service : Service) :
    Report :=
  match connect service with
  | (.error e, service) =>
    let reason := e.message
    ⟨.exit 1, [s!"Could not authenticate with Google Sheets: {reason}"], disk, service, []⟩
  | (.ok _, service) =>
    match Sheets.openOrCreate title (service, []) with
    | (.error e, service, log) => ⟨.failed (.store e), [], disk, service, log⟩
    | (.ok sheets, service, log) => walkWith settings (.sheets sheets service) log disk service

/-- The report without the records that matter less than the given severity. -/
def Report.atLeast (least : Severity) (r : Report) : Report :=
  { r with log := r.log.filter fun record => least.rank ≤ record.severity.rank }

/-- Runs the walk with the arguments of a command line.  The settings say which records count. -/
def run (arguments : List String) (configuration : Configuration) (disk : Disk)
    (service : Service) : Report :=
  match configuration.get with
  | .error e => ⟨.failed (.settings e), [], disk, service, []⟩
  | .ok ((_, settings), _) =>
    Report.atLeast settings.logLevel <|
      match arguments with
      | ["--sheets", title] => walkWithBook settings title disk service
      | _ =>
        let files : Files := ⟨Path.ofText settings.storageDir⟩
        walkWith settings (.files files disk) [] disk service

/-- All that was printed. -/
def Report.output (r : Report) : String :=
  String.join (r.printed.reverse.map (· ++ "\n"))

end Spreadsheet.Walkthrough

import Spreadsheet.Log
import Spreadsheet.Store.Service
import Spreadsheet.Text.Quoted

/-!
Texts kept in worksheets.

Each key has a worksheet of its own in one book of a service, with the text in its first cell.  A
call that the service refuses is reported as a failure to read, write or open.  A text that does
not fit into a cell is refused before any call.
-/

namespace Spreadsheet.Store

/-- A store in a book. -/
structure Sheets where
  book : BookId
deriving DecidableEq, Repr

namespace Sheets

/-- A failure of the service, as the given report if it is a refused call. -/
def report (wrap : String → PersistenceError) : ServiceError → StoreError
  | .api code message => .persistence (wrap (ServiceError.message (.api code message)))
  | e => .service e

/-- A service with a log, last record first. -/
abbrev Opening := Service × List Record

/-- An action of the service beside the log. -/
def onService {α : Type} (x : Action ServiceError Service α) : Action ServiceError Opening α :=
  Action.onPart Prod.fst (fun service opening => (service, opening.2)) x

/-- Opens the book of a title, or creates it if there is none, which is logged first. -/
def openOrCreate (title : String) : Action StoreError Opening Sheets :=
  Action.mapError (report (.openFailed title)) do
    match ← Action.attempt (onService (Service.openBook title)) with
    | .ok id => return ⟨id⟩
    | .error (.bookNotFound _) =>
      let created : Record := ⟨.sheetsStore, .info, s!"Creating backing spreadsheet '{title}'"⟩
      Action.update fun opening => (opening.1, created :: opening.2)
      return ⟨← onService (Service.createBook title)⟩
    | .error e => Action.fail e

/-- The value of a cell, with an empty text taken for none. -/
def nonempty : Option String → Option String
  | some "" => none
  | value => value

/-- Reads the text under a key. -/
def get (s : Sheets) (key : String) : Action StoreError Service (Option String) := do
  let found ← Action.attempt do
    Service.worksheet s.book key
    Service.readCell s.book key
  match found with
  | .ok value => return nonempty value
  | .error (.worksheetNotFound _) => return none
  | .error e => Action.fail (report (.readFailed key) e)

/-- Finds the worksheet of a key, or adds it if there is none. -/
def ensureWorksheet (s : Sheets) (key : String) : Action ServiceError Service Unit := do
  match ← Action.attempt (Service.worksheet s.book key) with
  | .ok _ => return ()
  | .error (.worksheetNotFound _) => Service.addWorksheet s.book key
  | .error e => Action.fail e

/-- Sets the text under a key. -/
def set (s : Sheets) (key payload : String) : Action StoreError Service Unit :=
  if maxCellChars < payload.length then
    Action.fail (.persistence (.tooLarge key payload.length))
  else
    Action.mapError (report (.writeFailed key)) do
      s.ensureWorksheet key
      Service.update s.book key payload

/-- The store with the title of its book. -/
def describe (s : Sheets) (service : Service) : String :=
  "SheetsStore(spreadsheet=" ++ Text.quoted (service.book s.book).title ++ ")"

end Sheets

end Spreadsheet.Store

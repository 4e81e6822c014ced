import Spreadsheet.Action
import Spreadsheet.Store.Error
import Spreadsheet.Store.Keyed

/-!
A service that keeps books of worksheets.

A `Service` answers calls one at a time and remembers them.  Each method may be set to fail; a call
of such a method is remembered and then fails without an effect.
-/

namespace Spreadsheet.Store

/-- What can be asked of the service. -/
inductive Method where
  | serviceAccount
  | oauth
  | openBook
  | createBook
  | worksheet
  | addWorksheet
  | readCell
  | update
deriving DecidableEq, Repr

/-- A call with its arguments. -/
inductive Call where
  | serviceAccount
  | oauth
  | openBook (title : String)
  | createBook (title : String)
  | worksheet (title : String)
  | addWorksheet (title : String) (rows cols : Nat)
  | readCell (title label : String)
  | update (title : String) (rows cols size : Nat) (label : String) (raw : Bool)
deriving DecidableEq, Repr

/-- The method that a call calls. -/
def Call.method : Call → Method
  | .serviceAccount => .serviceAccount
  | .oauth => .oauth
  | .openBook _ => .openBook
  | .createBook _ => .createBook
  | .worksheet _ => .worksheet
  | .addWorksheet _ _ _ => .addWorksheet
  | .readCell _ _ => .readCell
  | .update _ _ _ _ _ _ => .update

/-- A book: its title, the text in the first cell of each worksheet by the worksheet's title, and
whether the book can be opened by its title. -/
structure Book where
  title : String
  sheets : List (String × Option String) := []
  listed : Bool := true
deriving DecidableEq, Repr

/-- The book with a worksheet, in place of one of the same title. -/
def Book.put (b : Book) (sheet : String) (value : Option String) : Book :=
  { b with sheets := putKey sheet value b.sheets }

/-- The books of the service, the methods that fail, and the calls so far, last one first. -/
structure Service where
  books : List Book := []
  failures : List (Method × ServiceError) := []
  calls : List Call := []
deriving DecidableEq, Repr

/-- The number of a book in its service. -/
abbrev BookId := Nat

namespace Service

/-- The book of a number. -/
def book (s : Service) (id : BookId) : Book :=
  (s.books[id]?).getD { title := "" }

/-- Sets a method to fail, or lets it work again. -/
def setFailure (s : Service) (m : Method) (failure : Option ServiceError) : Service :=
  match failure with
  | none => { s with failures := dropKey m s.failures }
  | some e => { s with failures := putKey m e s.failures }

/-- The calls in their order. -/
def history (s : Service) : List Call :=
  s.calls.reverse

/-- Remembers a call, and fails if its method is set to. -/
def call (c : Call) : Action ServiceError Service Unit := fun s =>
  let s' := { s with calls := c :: s.calls }
  match s.failures.lookup c.method with
  | some e => (.error e, s')
  | none => (.ok (), s')

/-- Finds a worksheet of a book. -/
def worksheet (id : BookId) (sheet : String) : Action ServiceError Service Unit := do
  call (.worksheet sheet)
  match ((← Action.state).book id).sheets.lookup sheet with
  | none => Action.fail (.worksheetNotFound sheet)
  | some _ => return ()

/-- Adds an empty worksheet of one cell to a book. -/
def addWorksheet (id : BookId) (sheet : String) : Action ServiceError Service Unit := do
  call (.addWorksheet sheet 1 1)
  Action.update fun s => { s with books := s.books.modify id (·.put sheet none) }

/-- Reads the first cell of a worksheet. -/
def readCell (id : BookId) (sheet : String) : Action ServiceError Service (Option String) := do
  call (.readCell sheet "A1")
  return (((← Action.state).book id).sheets.lookup sheet).getD none

/-- Writes a text as it is into the first cell of a worksheet. -/
def update (id : BookId) (sheet payload : String) : Action ServiceError Service Unit := do
  call (.update sheet 1 1 payload.length "A1" true)
  Action.update fun s => { s with books := s.books.modify id (·.put sheet (some payload)) }

/-- The number of the newest listed book with a title. -/
def find? (s : Service) (title : String) : Option BookId :=
  (s.books.zipIdx.reverse.find? fun entry => entry.1.listed && entry.1.title == title).map Prod.snd

/-- Opens a book by its title. -/
def openBook (title : String) : Action ServiceError Service BookId := do
  call (.openBook title)
  match (← Action.state).find? title with
  | none => Action.fail (.bookNotFound title)
  | some id => return id

/-- Creates an empty book. -/
def createBook (title : String) : Action ServiceError Service BookId := do
  call (.createBook title)
  let s ← Action.state
  Action.update fun s => { s with books := s.books ++ [{ title := title }] }
  return s.books.length

end Service

end Spreadsheet.Store

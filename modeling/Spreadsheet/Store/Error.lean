import Spreadsheet.Text.Quoted
import Spreadsheet.Text.Utf8

/-!
How saving and loading fail.

Most failures are reported as `PersistenceError`s.  Three kinds pass through as they are: paths that
cannot be handed to a file system, bytes that are no UTF-8, and failures of the sheets service that
are not its ordinary way to refuse a call.
-/

namespace Spreadsheet.Store

/-- How the sheets service fails: a refused call with a code, a missing worksheet or book, or a lost
connection. -/
inductive ServiceError where
  | api (code : Int) (message : String)
  | worksheetNotFound (message : String)
  | bookNotFound (message : String)
  | connection (message : String)
deriving DecidableEq, Repr

/-- The wording of a failure. -/
def ServiceError.message : ServiceError → String
  | .api code message => s!"APIError: [{code}]: {message}"
  | .worksheetNotFound message => message
  | .bookNotFound message => message
  | .connection message => message

/-- The longest text that a cell of a worksheet holds, in characters. -/
def maxCellChars : Nat := 50000

/-- Why a snapshot could not be saved or loaded. -/
inductive PersistenceError where
  | invalidKey (key : String)
  | readFailed (place detail : String)
  | writeFailed (place detail : String)
  | openFailed (title detail : String)
  | tooLarge (key : String) (size : Nat)
  | invalidSnapshot (key detail : String)
  | otherSize (key : String) (rows cols expectedRows expectedCols : Nat)
deriving DecidableEq, Repr

/-- The wording of a failure. -/
def PersistenceError.message : PersistenceError → String
  | .invalidKey key =>
    let shown := Text.quoted key
    s!"Invalid storage key: {shown}"
  | .readFailed place detail => s!"Failed to read snapshot '{place}': {detail}"
  | .writeFailed place detail => s!"Failed to write snapshot '{place}': {detail}"
  | .openFailed title detail => s!"Failed to open spreadsheet '{title}': {detail}"
  | .tooLarge key size =>
    s!"Snapshot '{key}' is {size} characters; Google Sheets cells hold at most {maxCellChars}"
  | .invalidSnapshot key detail => s!"Stored snapshot '{key}' is invalid: {detail}"
  | .otherSize key rows cols expectedRows expectedCols =>
    s!"Stored snapshot '{key}' is {rows}x{cols}, expected {expectedRows}x{expectedCols}"

/-- How a store fails. -/
inductive StoreError where
  | persistence (e : PersistenceError)
  | nulInPath
  | undecodable (e : Text.Utf8.Malformed)
  | service (e : ServiceError)
deriving DecidableEq, Repr

/-- The wording of a failure. -/
def StoreError.message : StoreError → String
  | .persistence e => e.message
  | .nulInPath => "embedded null byte"
  | .undecodable e => e.message
  | .service e => e.message

end Spreadsheet.Store

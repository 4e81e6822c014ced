import Spreadsheet.Formula.Evaluation
import Spreadsheet.Frame
import Spreadsheet.Grid.Document
import Spreadsheet.History
import Spreadsheet.Settings
import Spreadsheet.Store.Error

/-!
All the ways to fail, in one type.
-/

namespace Spreadsheet

open Formula (FormulaError Interruption InvalidName ReducerError)
open Store (StoreError)

/-- A failure of any part of the program. -/
inductive Fault where
  | column (e : ColumnError)
  | range (e : RangeError)
  | reference (e : ReferenceError)
  | grid (e : GridError)
  | formula (e : FormulaError)
  | reducer (e : ReducerError)
  | name (e : InvalidName)
  | history (e : HistoryError)
  | document (e : DocumentError)
  | frame (e : FrameError)
  | store (e : StoreError)
  | settings (e : SettingsError)
  | badVariable (e : VariableError)
  | level (e : UnknownLevel)

namespace Fault

/-- What interrupted an evaluation. -/
def interruption : Interruption → Fault
  | .digits e => .reference (.tooManyDigits e)
  | .reducer e => .reducer e

/-- The message of a failure; defects of settings have names instead. -/
def message : Fault → String
  | .column e => e.message
  | .range e => e.message
  | .reference e => e.message
  | .grid e => e.message
  | .formula e => e.message
  | .reducer e => e.message
  | .name e => e.message
  | .history e => e.message
  | .document e => e.message
  | .frame e => e.message
  | .store e => e.message
  | .settings e =>
    String.intercalate "\n" (e.defects.map fun defect => defect.1 ++ ": " ++ defect.2.name)
  | .badVariable e => e.message
  | .level e => e.message

end Fault

end Spreadsheet

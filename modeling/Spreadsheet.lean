import Spreadsheet.Action
import Spreadsheet.Editor
import Spreadsheet.Fault
import Spreadsheet.Formula.Evaluation
import Spreadsheet.Formula.Reducer
import Spreadsheet.Formula.Registry
import Spreadsheet.Frame
import Spreadsheet.Grid
import Spreadsheet.Grid.Document
import Spreadsheet.History
import Spreadsheet.Json.Printer
import Spreadsheet.Json.Reader
import Spreadsheet.Json.Value
import Spreadsheet.Log
import Spreadsheet.Main
import Spreadsheet.Number.Binary64
import Spreadsheet.Number.Conversion
import Spreadsheet.Number.Decimal
import Spreadsheet.Number.Digits
import Spreadsheet.Number.Layout
import Spreadsheet.Number.Numeral
import Spreadsheet.Number.Whole
import Spreadsheet.Proofs.Atomicity
import Spreadsheet.Proofs.Cells
import Spreadsheet.Proofs.Convergence
import Spreadsheet.Proofs.Defects
import Spreadsheet.Proofs.Dependence
import Spreadsheet.Proofs.Depth
import Spreadsheet.Proofs.Dispatch
import Spreadsheet.Proofs.Document
import Spreadsheet.Proofs.Dragging
import Spreadsheet.Proofs.Enumeration
import Spreadsheet.Proofs.Evaluation
import Spreadsheet.Proofs.Frame
import Spreadsheet.Proofs.Gathering
import Spreadsheet.Proofs.Gestures
import Spreadsheet.Proofs.Influence
import Spreadsheet.Proofs.Invariant
import Spreadsheet.Proofs.Json.Depth
import Spreadsheet.Proofs.Json.Plain
import Spreadsheet.Proofs.Json.RoundTrip
import Spreadsheet.Proofs.Json.Strings
import Spreadsheet.Proofs.Lettering
import Spreadsheet.Proofs.Loading
import Spreadsheet.Proofs.Naming
import Spreadsheet.Proofs.Number.Bits
import Spreadsheet.Proofs.Number.Display
import Spreadsheet.Proofs.Number.Grammar
import Spreadsheet.Proofs.Number.Nearest
import Spreadsheet.Proofs.Number.Notation
import Spreadsheet.Proofs.Number.Reading
import Spreadsheet.Proofs.Number.Rounding
import Spreadsheet.Proofs.Number.Shape
import Spreadsheet.Proofs.Number.Skipping
import Spreadsheet.Proofs.Operations
import Spreadsheet.Proofs.Pass
import Spreadsheet.Proofs.Places
import Spreadsheet.Proofs.Recalculation
import Spreadsheet.Proofs.Registration
import Spreadsheet.Proofs.Search
import Spreadsheet.Proofs.Sharing
import Spreadsheet.Proofs.Staleness
import Spreadsheet.Proofs.Store.Contents
import Spreadsheet.Proofs.Store.Directories
import Spreadsheet.Proofs.Store.Encoding
import Spreadsheet.Proofs.Store.Files
import Spreadsheet.Proofs.Store.Isolation
import Spreadsheet.Proofs.Store.Keys
import Spreadsheet.Proofs.Store.Payloads
import Spreadsheet.Proofs.Store.Refusals
import Spreadsheet.Proofs.Store.Sheets
import Spreadsheet.Proofs.Surrogates
import Spreadsheet.Proofs.Sweep
import Spreadsheet.Proofs.Timeline
import Spreadsheet.Proofs.Typing
import Spreadsheet.Proofs.Verdict
import Spreadsheet.Proofs.WellFormed
import Spreadsheet.Proofs.Workbook
import Spreadsheet.Range
import Spreadsheet.Reference
import Spreadsheet.Reference.Reader
import Spreadsheet.Selection
import Spreadsheet.Settings
import Spreadsheet.Store
import Spreadsheet.Store.Disk
import Spreadsheet.Store.Error
import Spreadsheet.Store.Files
import Spreadsheet.Store.Keyed
import Spreadsheet.Store.Memory
import Spreadsheet.Store.Path
import Spreadsheet.Store.Service
import Spreadsheet.Store.Sheets
import Spreadsheet.Text.Alphanumeric
import Spreadsheet.Text.Blank
import Spreadsheet.Text.CodeRange
import Spreadsheet.Text.DecimalDigit
import Spreadsheet.Text.Printable
import Spreadsheet.Text.Quoted
import Spreadsheet.Text.Uppercase
import Spreadsheet.Text.Utf8
import Spreadsheet.Walkthrough

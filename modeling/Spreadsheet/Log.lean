/-!
Log records.
-/

namespace Spreadsheet

/-- How much a record matters, in rising order. -/
inductive Severity where
  | debug
  | info
  | warning
  | error
deriving DecidableEq, Repr

namespace Severity

/-- The number by which severities are compared. -/
def rank : Severity → Nat
  | .debug => 10
  | .info => 20
  | .warning => 30
  | .error => 40

/-- The name of a severity. -/
def name : Severity → String
  | .debug => "DEBUG"
  | .info => "INFO"
  | .warning => "WARNING"
  | .error => "ERROR"

/-- All severities. -/
def all : List Severity :=
  [.debug, .info, .warning, .error]

/-- The severity with exactly this name. -/
def ofName? (text : String) : Option Severity :=
  all.find? (·.name == text)

end Severity

/-- The part of the program that a record comes from. -/
inductive Origin where
  | editor
  | evaluator
  | history
  | fileStore
  | sheetsStore
deriving DecidableEq, Repr

/-- A line of the log. -/
structure Record where
  origin : Origin
  severity : Severity
  message : String
deriving DecidableEq, Repr

end Spreadsheet

import Spreadsheet.Formula.Registry
import Spreadsheet.Grid
import Spreadsheet.Log
import Spreadsheet.Number.Layout
import Spreadsheet.Reference.Reader

/-!
Evaluating formulas.

A formula is a text that begins with an equals sign.  It computes one number: the first range
reference in it says which cells are read, and the name after the equals sign which reducer is
applied to their numbers.  `Outcome` is what becomes of a text, and `Outcome.display` what a cell
then shows.  Failures are outcomes too, all but two: a row number that is too long to be read, and
what goes wrong while the failure of a reducer is told.  These interrupt the evaluation.
-/

namespace Spreadsheet.Formula

open Number (TooManyDigits)

/-- Why a formula has no value. -/
inductive FormulaError where
  | noRange (formula : String)
  | unknownFunction (formula : String)
  | reference (e : ReferenceError)
  | outsideGrid (ref : CellRef)
  | raised (kind : ErrorKind) (message : String)
  | reducerFailed (name : String) (e : ForeignError)
  | escaped (e : ReducerError)
deriving DecidableEq, Repr

/-- What interrupts an evaluation: a row number that is too long to be read, or a failure of a
reducer that no formula error is made of. -/
inductive Interruption where
  | digits (e : TooManyDigits)
  | reducer (e : ReducerError)
deriving DecidableEq, Repr

namespace FormulaError

/-- What the failure of a reducer is to the formula that calls it under a name.  A formula error is
kept, and a foreign failure is told with the name.  Instead of one that cannot be told there is what
failed while it was, and that may be a formula error again. -/
def ofReducer (name : String) : ReducerError → FormulaError
  | .formula kind message => .raised kind message
  | .foreign e => .reducerFailed name e
  | .untold _ (.formula kind message) => .raised kind message
  | .untold _ failure => .escaped failure
  | .interrupt e => .escaped (.interrupt e)

/-- The interruption that an error stands for, if it is no error of the formula. -/
def interruption? : FormulaError → Option Interruption
  | .reference (.tooManyDigits e) => some (.digits e)
  | .escaped e => some (.reducer e)
  | _ => none

/-- The kind of an error. -/
def kind : FormulaError → ErrorKind
  | .noRange _ | .unknownFunction _ => .unsupported
  | .reference _ => .parse
  | .outsideGrid _ | .reducerFailed _ _ | .escaped _ => .evaluation
  | .raised kind _ => kind

/-- The wording of an error. -/
def message : FormulaError → String
  | .noRange formula =>
    let shown := Text.quoted formula
    s!"No range reference in {shown}"
  | .unknownFunction formula =>
    let shown := Text.quoted formula
    s!"Unknown function in {shown}"
  | .reference e => e.message
  | .outsideGrid ref =>
    let label := ref.label
    s!"{label} is outside the grid"
  | .raised _ message => message
  | .reducerFailed name e => name ++ " failed: " ++ e.told
  | .escaped e => e.message

/-- The kind of the failure behind an error, if there is one. -/
def cause? : FormulaError → Option String
  | .outsideGrid _ => some "IndexError"
  | .reducerFailed _ e => some e.kind
  | _ => none

end FormulaError

/-- The number in a cell of the grid. -/
def numberAt (g : Grid) (ref : CellRef) : Except FormulaError Float :=
  match g.get ref.row ref.col with
  | .ok cell => .ok (Number.ofText cell.value)
  | .error _ => .error (.outsideGrid ref)

/-- The numbers of a range, row by row. -/
def rangeValues (g : Grid) (r : Range) : Except FormulaError (List Float) :=
  r.cells.mapM (numberAt g)

/-- Applies a reducer under its name. -/
def applyReducer (name : String) (reducer : Reducer) (values : List Float) :
    Except FormulaError Float :=
  (reducer.call values).mapError (FormulaError.ofReducer name)

/-- Applies the reducer that a formula calls. -/
def applyCalled (registry : Registry) (formula : String) (values : List Float) :
    Except FormulaError Float :=
  match registry.called? formula with
  | none => .error (.unknownFunction formula)
  | some (name, reducer) => applyReducer name reducer values

/-- The range that a formula reads. -/
def rangeOf (formula : String) : Except FormulaError Range :=
  match Range.find formula with
  | .error e => .error (.reference e)
  | .ok none => .error (.noRange formula)
  | .ok (some r) => .ok r

/-- The number that a formula computes. -/
def compute (registry : Registry) (g : Grid) (formula : String) : Except FormulaError Float := do
  let r ← rangeOf formula
  let values ← rangeValues g r
  applyCalled registry formula values

/-- What becomes of a text. -/
inductive Outcome where
  | text (s : String)
  | number (x : Float)
  | failure (e : FormulaError)
deriving DecidableEq

/-- What a cell shows: a formula that is not supported is invalid, any other failure an error. -/
def Outcome.display : Outcome → String
  | .text s => s
  | .number x => Number.display x
  | .failure e => if e.kind = .unsupported then "INVALID" else "ERROR"

/-- The text is a formula. -/
def IsFormula (text : String) : Prop :=
  ['='] <+: text.toList

instance (text : String) : Decidable (IsFormula text) :=
  inferInstanceAs (Decidable (_ <+: _))

/-- Evaluates a text.  Only an interruption is no outcome. -/
def evaluate (registry : Registry) (g : Grid) (text : String) : Except Interruption Outcome :=
  if IsFormula text then
    match compute registry g text with
    | .ok x => .ok (.number x)
    | .error e =>
      match e.interruption? with
      | some i => .error i
      | none => .ok (.failure e)
  else .ok (.text text)

/-- What an evaluation logs: a warning if it fails. -/
def Outcome.records (formula : String) : Outcome → List Record
  | .failure e =>
    let shown := Text.quoted formula
    let message := e.message
    [⟨.evaluator, .warning, s!"Formula evaluation error for {shown}: {message}"⟩]
  | _ => []

end Spreadsheet.Formula

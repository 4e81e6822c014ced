import Spreadsheet.Number.Conversion
import Spreadsheet.Text.Quoted

/-!
Reducers, the functions that formulas apply to the numbers of a range.

A `Reducer` may answer with any `Scalar`, which is then made a number, or fail: with a formula error
of its own, or with a failure that is foreign to formulas.  A formula tells a foreign failure by its
text, but making the text may fail as well, in any of these ways again.
-/

namespace Spreadsheet.Formula

/-- The kinds of formula errors. -/
inductive ErrorKind where
  | evaluation
  | parse
  | unsupported
deriving DecidableEq, Repr

/-- A failure that is foreign to formulas: the name of its kind, its message, and the text that
tells it. -/
structure ForeignError where
  kind : String
  message : String
  told : String
deriving DecidableEq, Repr

/-- A failure that is told by its kind and the text that it was raised with, which is its message
too. -/
def ForeignError.plain (kind message : String) : ForeignError :=
  ⟨kind, message, kind ++ "(" ++ Text.quoted message ++ ")"⟩

/-- How a reducer fails.  Of an untold failure no text can be made, because making it fails in turn.
An interrupt is a request to stop, which is no failure and is not handled as one. -/
inductive ReducerError where
  | formula (kind : ErrorKind) (message : String)
  | foreign (e : ForeignError)
  | untold (kind : String) (failure : ReducerError)
  | interrupt (e : ForeignError)
deriving DecidableEq, Repr

/-- The message of a failure; an untold one has none. -/
def ReducerError.message : ReducerError → String
  | .formula _ message => message
  | .foreign e | .interrupt e => e.message
  | .untold _ _ => ""

/-- What a reducer may answer.  A value of another kind counts as the number that its own conversion
makes of it, and is unconvertible if that fails, in whatever way. -/
inductive Scalar where
  | float (x : Float)
  | int (n : Int)
  | bool (b : Bool)
  | text (s : String)
  | nothing
  | unconvertible (e : ReducerError)
deriving DecidableEq

/-- The number that an answer stands for. -/
def Scalar.toFloat : Scalar → Except ReducerError Float
  | .float x => .ok x
  | .int n =>
    match Number.ofInt? n with
    | some x => .ok x
    | none => .error (.foreign (.plain "OverflowError" "int too large to convert to float"))
  | .bool b => .ok (if b then 1.0 else 0.0)
  | .text s =>
    match Number.ofWholeText? s with
    | some x => .ok x
    | none =>
      let message := "could not convert string to float: " ++ Text.quoted s
      .error (.foreign (.plain "ValueError" message))
  | .nothing =>
    let message := "float() argument must be a string or a real number, not 'NoneType'"
    .error (.foreign (.plain "TypeError" message))
  | .unconvertible e => .error e

/-- A function from the numbers of a range to one answer, with a label to tell it by. -/
structure Reducer where
  label : String
  apply : List Float → Except ReducerError Scalar

namespace Reducer

/-- Calls the reducer; its answer must stand for a number. -/
def call (reducer : Reducer) (values : List Float) : Except ReducerError Float := do
  (← reducer.apply values).toFloat

/-- Adds numbers from left to right, beginning at zero. -/
def sumOf (values : List Float) : Float :=
  values.foldl (· + ·) 0.0

/-- The sum of the numbers. -/
def sum : Reducer where
  label := "builtin:SUM"
  apply values := .ok (.float (sumOf values))

/-- The sum of the numbers divided by their count; there must be at least one. -/
def average : Reducer where
  label := "builtin:AVERAGE"
  apply values :=
    if values.isEmpty then
      .error (.formula .evaluation "AVERAGE: division by zero (no values)")
    else .ok (.float (sumOf values / Float.ofNat values.length))

/-- A called average fails exactly if there are no numbers. -/
theorem call_average (values : List Float) :
    average.call values =
      if values.isEmpty then .error (.formula .evaluation "AVERAGE: division by zero (no values)")
      else .ok (sumOf values / Float.ofNat values.length) := by
  cases values with
  | nil => rfl
  | cons x values => rfl

end Reducer

end Spreadsheet.Formula

import Spreadsheet.Json.Value
import Spreadsheet.Log
import Spreadsheet.Number.Binary64
import Spreadsheet.Number.Whole
import Spreadsheet.Text.Quoted

/-!
Settings.

`Settings` are read from named arguments and from variables of the environment, both in any case;
an argument counts more than a variable, and what is given by neither has a default.  All defects
are reported together, those of the fields in the order of the fields and then unknown arguments.
A `Configuration` reads its settings once and keeps them until it is reset.
-/

namespace Spreadsheet

/-- What can be set. -/
structure Settings where
  rows : Int := 20
  cols : Int := 10
  storageKey : String := "spreadsheet"
  storageDir : String := ".cellgrid"
  historyLimit : Option Int := none
  logLevel : Severity := .warning
deriving DecidableEq, Repr

/-- What is wrong with a value. -/
inductive Defect where
  | notAnInteger
  | tooLarge
  | wrongKindForInteger
  | fraction
  | notFinite
  | wrongKindForText
  | notAChoice
  | unknownName
deriving DecidableEq, Repr

/-- The name of a defect. -/
def Defect.name : Defect → String
  | .notAnInteger => "int_parsing"
  | .tooLarge => "int_parsing_size"
  | .wrongKindForInteger => "int_type"
  | .fraction => "int_from_float"
  | .notFinite => "finite_number"
  | .wrongKindForText => "string_type"
  | .notAChoice => "literal_error"
  | .unknownName => "extra_forbidden"

/-- The defects of settings, each with the name that it belongs to. -/
structure SettingsError where
  defects : List (String × Defect)
deriving DecidableEq, Repr

namespace Settings

/-- What variables of the environment begin with, in lower case. -/
def variableStart : String := "cellgrid_"

/-- The names of the fields in their order. -/
def fieldNames : List String :=
  ["rows", "cols", "storage_key", "storage_dir", "history_limit", "log_level"]

/-- Only floating-point numbers nearer to zero than this one stand for whole numbers. -/
def floatBound : Nat := Nat.pow 2 63

/-- The whole number that a value stands for. -/
def intOf : Json → Except Defect Int
  | .int n => .ok n
  | .bool b => .ok (if b then 1 else 0)
  | .float x =>
    match Number.Parts.ofFloat x with
    | .finite negative code =>
      let scale := Nat.pow 2 Number.unitBits
      let n := Number.units code / scale
      if Number.units code % scale ≠ 0 then .error .fraction
      else if n < floatBound then .ok (if negative then -(n : Int) else n)
      else .error .tooLarge
    | _ => .error .notFinite
  | .string text =>
    (Number.Whole.ofText text).mapError fun
      | .malformed => .notAnInteger
      | .tooManyDigits => .tooLarge
  | _ => .error .wrongKindForInteger

/-- The whole number that a value stands for, or none. -/
def optionalIntOf : Json → Except Defect (Option Int)
  | .null => .ok none
  | v => (intOf v).map some

/-- The text that a value is. -/
def textOf : Json → Except Defect String
  | .string text => .ok text
  | _ => .error .wrongKindForText

/-- The severity that a value names. -/
def severityOf : Json → Except Defect Severity
  | .string text =>
    match Severity.ofName? text with
    | some s => .ok s
    | none => .error .notAChoice
  | _ => .error .notAChoice

/-- A name in lower case.  Of the characters beyond ASCII only the Kelvin sign has a letter of ASCII
for its lower case, and no field's name holds any other. -/
def foldName (name : String) : String :=
  name.map fun c => if c = '\u212A' then 'k' else c.toLower

/-- The value given to a name by the first of some named values, whatever the case of the names. -/
def given? (values : List (String × Json)) (name : String) : Option Json :=
  (values.find? fun entry => foldName entry.1 == name).map Prod.snd

/-- The value of a field: by the first argument of its name, or else by the last variable. -/
def source? (environment : List (String × String)) (arguments : List (String × Json))
    (name : String) : Option Json :=
  match given? arguments name with
  | some v => some v
  | none =>
    given? (environment.reverse.map fun entry => (entry.1, .string entry.2)) (variableStart ++ name)

/-- The value of a field, or its default, or the defect under the field's name. -/
def field {α : Type} (environment : List (String × String)) (arguments : List (String × Json))
    (name : String) (fallback : α) (convert : Json → Except Defect α) :
    Except (List (String × Defect)) α :=
  match source? environment arguments name with
  | none => .ok fallback
  | some v => (convert v).mapError fun defect => [(name, defect)]

/-- The defects of a field. -/
def defectsOf {α : Type} : Except (List (String × Defect)) α → List (String × Defect)
  | .ok _ => []
  | .error defects => defects

/-- Reads settings. -/
def read (environment : List (String × String)) (arguments : List (String × Json)) :
    Except SettingsError Settings :=
  let fallback : Settings := {}
  let rows := field environment arguments "rows" fallback.rows intOf
  let cols := field environment arguments "cols" fallback.cols intOf
  let storageKey := field environment arguments "storage_key" fallback.storageKey textOf
  let storageDir := field environment arguments "storage_dir" fallback.storageDir textOf
  let historyLimit :=
    field environment arguments "history_limit" fallback.historyLimit optionalIntOf
  let logLevel := field environment arguments "log_level" fallback.logLevel severityOf
  let unknown := arguments.filterMap fun entry =>
    if fieldNames.contains (foldName entry.1) then none else some (entry.1, Defect.unknownName)
  match rows, cols, storageKey, storageDir, historyLimit, logLevel, unknown with
  | .ok rows, .ok cols, .ok storageKey, .ok storageDir, .ok historyLimit, .ok logLevel, [] =>
    .ok { rows, cols, storageKey, storageDir, historyLimit, logLevel }
  | _, _, _, _, _, _, _ =>
    .error ⟨defectsOf rows ++ defectsOf cols ++ defectsOf storageKey ++ defectsOf storageDir
      ++ defectsOf historyLimit ++ defectsOf logLevel ++ unknown⟩

end Settings

/-- A level that a logger can be set to: a number, or a name. -/
inductive Level where
  | number (n : Int)
  | name (text : String)
deriving DecidableEq, Repr

/-- A name that is no level's. -/
structure UnknownLevel where
  name : String
deriving DecidableEq, Repr

/-- The wording of the refusal. -/
def UnknownLevel.message (e : UnknownLevel) : String :=
  let shown := Text.quoted e.name
  s!"Unknown level: {shown}"

namespace Level

/-- The levels that have names. -/
def named : List (String × Int) :=
  [("CRITICAL", 50), ("FATAL", 50), ("ERROR", 40), ("WARN", 30), ("WARNING", 30), ("INFO", 20),
    ("DEBUG", 10), ("NOTSET", 0)]

/-- The number of a level. -/
def rank : Level → Except UnknownLevel Int
  | .number n => .ok n
  | .name text =>
    match named.lookup text with
    | some n => .ok n
    | none => .error ⟨text⟩

/-- Neither zero nor the empty name, which stand for no choice. -/
def isChoice : Level → Bool
  | .number n => n != 0
  | .name text => text != ""

end Level

/-- A logger: the rank from which on records count, and the formats of its handlers. -/
structure Logger where
  rank : Int := 0
  handlers : List String := []
deriving DecidableEq, Repr

/-- The format of the handler that a program attaches. -/
def handlerFormat : String :=
  "%(asctime)s - %(name)s - %(levelname)s - %(message)s"

/-- The logger set to a rank, with a handler unless it has one. -/
def Logger.configure (l : Logger) (rank : Int) : Logger where
  rank := rank
  handlers := if l.handlers.isEmpty then [handlerFormat] else l.handlers

/-- Why an environment does not take a variable. -/
inductive VariableError where
  | nulCharacter
  | equalsSign
  | emptyName
deriving DecidableEq, Repr

/-- The wording of the refusal. -/
def VariableError.message : VariableError → String
  | .nulCharacter => "embedded null byte"
  | .equalsSign => "illegal environment variable name"
  | .emptyName => "[Errno 22] Invalid argument"

/-- The environment, and the settings once they are read, with a number that tells one reading from
another. -/
structure Configuration where
  environment : List (String × String) := []
  current : Option (Nat × Settings) := none
  readings : Nat := 0
deriving DecidableEq, Repr

namespace Configuration

/-- The settings with the number of their reading; they are read if they are not at hand. -/
def get (c : Configuration) : Except SettingsError ((Nat × Settings) × Configuration) :=
  match c.current with
  | some found => .ok (found, c)
  | none => do
    let settings ← Settings.read c.environment []
    let found := (c.readings, settings)
    return (found, { c with current := some found, readings := c.readings + 1 })

/-- Forgets the settings, so that they are read again. -/
def reset (c : Configuration) : Configuration :=
  { c with current := none }

/-- Sets a variable of the environment.  Its name is not empty and holds no equals sign, and neither
the name nor the value holds the character NUL. -/
def setVariable (c : Configuration) (name value : String) : Except VariableError Configuration :=
  if name.toList.contains '\x00' ∨ value.toList.contains '\x00' then .error .nulCharacter
  else if name.toList.contains '=' then .error .equalsSign
  else if name = "" then .error .emptyName
  else if c.environment.any (·.1 == name) then
    .ok { c with
      environment :=
        c.environment.map fun entry => if entry.1 = name then (name, value) else entry }
  else .ok { c with environment := c.environment ++ [(name, value)] }

/-- Removes a variable from the environment. -/
def dropVariable (c : Configuration) (name : String) : Configuration :=
  { c with environment := c.environment.filter fun entry => entry.1 != name }

end Configuration

end Spreadsheet

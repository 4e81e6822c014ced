/-!
JSON documents as values.

Numbers without a fraction and an exponent are whole and exact, all others are doubles.  An object
keeps its fields as they were written; where a name is used twice, the later field counts.
-/

namespace Spreadsheet

/-- A JSON document. -/
inductive Json where
  | null
  | bool (b : Bool)
  | int (n : Int)
  | float (x : Float)
  | string (s : String)
  | array (items : List Json)
  | object (fields : List (String × Json))

namespace Json

instance : Inhabited Json := ⟨.null⟩

/-- The word for the kind of a value that messages use. -/
def kindName : Json → String
  | .null => "NoneType"
  | .bool _ => "bool"
  | .int _ => "int"
  | .float _ => "float"
  | .string _ => "str"
  | .array _ => "list"
  | .object _ => "dict"

/-- The kind of a value as messages about a whole document put it. -/
def className (v : Json) : String :=
  let name := v.kindName
  s!"<class '{name}'>"

/-- The last field of the given name. -/
def field? (fields : List (String × Json)) (name : String) : Option Json :=
  fields.reverse.lookup name

end Json

end Spreadsheet

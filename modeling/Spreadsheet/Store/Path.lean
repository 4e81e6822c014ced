/-!
Paths of files and directories.

A path is a list of names, from the root or from the working directory.  Empty names and the name
`.` are dropped when a path is read; the name `..` is kept.
-/

namespace Spreadsheet.Store

/-- A path: whether it begins at the root, and its names. -/
structure Path where
  absolute : Bool
  names : List String
deriving DecidableEq, Repr

namespace Path

/-- The path that a text denotes. -/
def ofText (text : String) : Path where
  absolute := text.toList.head? == some '/'
  names := (text.splitOn "/").filter fun name => name != "" && name != "."

/-- The text of a path. -/
def toText (p : Path) : String :=
  if p.absolute then "/" ++ String.intercalate "/" p.names
  else if p.names.isEmpty then "."
  else String.intercalate "/" p.names

/-- A name holds the character NUL, which no file system takes. -/
def hasNul (p : Path) : Bool :=
  p.names.any fun name => name.toList.contains '\x00'

/-- The path of the first names. -/
def take (p : Path) (count : Nat) : Path :=
  { p with names := p.names.take count }

/-- The path of an entry of a directory. -/
def child (p : Path) (name : String) : Path :=
  { p with names := p.names ++ [name] }

end Path

end Spreadsheet.Store

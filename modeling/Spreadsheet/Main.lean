import Spreadsheet.Walkthrough

/-!
The command line: runs the walk through the editor.

The walk works on a disk of its own, which holds nothing but the working directory and those above
it; what it leaves there is then written.  There is no connection to a sheets service here, so that
every attempt to use one fails.
-/

namespace Spreadsheet.CommandLine

open Store (Disk Location Node Path)
open Walkthrough (Ending)

/-- The variables of the environment that settings are read from. -/
def variableNames : List String :=
  Settings.fieldNames.map fun name => (Settings.variableStart ++ name).toUpper

/-- The variables that are set. -/
def environment : IO (List (String × String)) :=
  variableNames.filterMapM fun name => do
    return (← IO.getEnv name).map (name, ·)

/-- The place of the disk's root, and the working directory on the disk.  If the environment does
not tell the working directory, it is the root. -/
def surroundings : IO (String × Location) := do
  match ← IO.getEnv "PWD" with
  | some text => return ("/", (Path.ofText text).names)
  | none => return ("", [])

/-- The disk that holds a working directory and those above it. -/
def diskAt (working : Location) : Disk where
  nodes := (List.range working.length).map fun n : Nat => (working.take (n + 1), .directory)
  working := working

/-- Writes a directory or a file of the disk. -/
def writeNode (root : String) (entry : String × Node) : IO Unit :=
  match entry.2 with
  | .directory => IO.FS.createDirAll (root ++ entry.1)
  | .file bytes => IO.FS.writeBinFile (root ++ entry.1) ⟨bytes.toArray⟩

/-- A service that cannot be reached. -/
def unreachable : Store.Service where
  failures :=
    [(.serviceAccount, .connection "no connection"), (.oauth, .connection "no connection")]

/-- Runs the walk and gives the code to exit with. -/
def execute (arguments : List String) : IO UInt32 := do
  let configuration : Configuration := { environment := ← environment }
  let (root, working) ← surroundings
  let report := Walkthrough.run arguments configuration (diskAt working) unreachable
  IO.print report.output
  (report.disk.listing []).forM (writeNode root)
  match report.ending with
  | .finished => return 0
  | .exit code => return code.toUInt32
  | .failed fault =>
    IO.eprintln fault.message
    return 1

end Spreadsheet.CommandLine

/-- The program. -/
def main (arguments : List String) : IO UInt32 :=
  Spreadsheet.CommandLine.execute arguments

import Spreadsheet.Action
import Spreadsheet.Store.Keyed
import Spreadsheet.Store.Path
import Spreadsheet.Text.Quoted
import Spreadsheet.Text.Utf8

/-!
A file system.

A `Disk` holds directories and files under their full paths and knows the working directory.  Names
are looked up one after the other, so that a path fails at the first name that is missing, is no
directory or is too long.  There are no links.  An operation that fails changes nothing.
`Disk.node?_put` and `Disk.node?_erase` say what a change of one node does to all of them.
-/

namespace Spreadsheet.Store

/-- Why an operation on the file system fails. -/
inductive DiskError where
  | absent
  | exists
  | notDirectory
  | isDirectory
  | nameTooLong
  | other (number : Nat) (text : String)
deriving DecidableEq, Repr

namespace DiskError

/-- The number of an error. -/
def number : DiskError → Nat
  | .absent => 2
  | .exists => 17
  | .notDirectory => 20
  | .isDirectory => 21
  | .nameTooLong => 36
  | .other number _ => number

/-- The text of an error. -/
def text : DiskError → String
  | .absent => "No such file or directory"
  | .exists => "File exists"
  | .notDirectory => "Not a directory"
  | .isDirectory => "Is a directory"
  | .nameTooLong => "File name too long"
  | .other _ text => text

end DiskError

/-- A failed operation: the error, the path, and the second path if there is one. -/
structure DiskFault where
  error : DiskError
  path : Path
  target : Option Path := none
deriving DecidableEq, Repr

/-- The message gives the number and the text of the error, and the paths. -/
def DiskFault.message (e : DiskFault) : String :=
  let number := e.error.number
  let text := e.error.text
  let path := Text.quoted e.path.toText
  let target := match e.target with
    | none => ""
    | some target => " -> " ++ Text.quoted target.toText
  s!"[Errno {number}] {text}: {path}{target}"

/-- What a full path leads to. -/
inductive Node where
  | directory
  | file (bytes : List UInt8)
deriving DecidableEq, Repr

/-- The place of a node: the names from the root to it. -/
abbrev Location := List String

/-- Directories and files by their locations, and the location of the working directory.  The root
is always there and is not listed. -/
structure Disk where
  nodes : List (Location × Node) := []
  working : Location := []
deriving DecidableEq, Repr

namespace Disk

/-- The longest name of an entry, in bytes. -/
def maxName : Nat := 255

/-- The longest path, in bytes. -/
def maxPath : Nat := 4095

/-- What there is at a location. -/
def node? (d : Disk) (place : Location) : Option Node :=
  if place = [] then some .directory else d.nodes.lookup place

/-- The disk with a node at a location, in place of one that was there. -/
def put (d : Disk) (place : Location) (node : Node) : Disk :=
  { d with nodes := putKey place node d.nodes }

/-- The disk without the node at a location. -/
def erase (d : Disk) (place : Location) : Disk :=
  { d with nodes := dropKey place d.nodes }

/-- Only the place of a new node leads to something else than before. -/
theorem node?_put (d : Disk) {place : Location} (h : place ≠ []) (node : Node)
    (other : Location) :
    (d.put place node).node? other = if other = place then some node else d.node? other := by
  simp only [node?, put, lookup_putKey, beq_iff_eq]
  by_cases ho : other = []
  · rw [if_pos ho, if_pos ho, if_neg (by rw [ho]; exact h.symm)]
  · rw [if_neg ho, if_neg ho]

/-- Only the place of a removed node leads to nothing. -/
theorem node?_erase (d : Disk) {place : Location} (h : place ≠ []) (other : Location) :
    (d.erase place).node? other = if other = place then none else d.node? other := by
  simp only [node?, erase, lookup_dropKey, beq_iff_eq]
  by_cases ho : other = []
  · rw [if_pos ho, if_pos ho, if_neg (by rw [ho]; exact h.symm)]
  · rw [if_neg ho, if_neg ho]

/-- The location of an entry of a directory. -/
def enter (place : Location) (name : String) : Except DiskError Location :=
  if name = ".." then .ok place.dropLast
  else if maxName < name.utf8ByteSize then .error .nameTooLong
  else .ok (place ++ [name])

/-- The location that names lead to, each before the last of them a directory. -/
def walk (d : Disk) (place : Location) : List String → Except DiskError Location
  | [] => .ok place
  | name :: names =>
    match d.node? place with
    | none => .error .absent
    | some (.file _) => .error .notDirectory
    | some .directory => do d.walk (← enter place name) names

/-- The location of a path, whether or not there is something. -/
def locate (d : Disk) (p : Path) : Except DiskError Location :=
  if maxPath < p.toText.utf8ByteSize then .error .nameTooLong
  else d.walk (if p.absolute then [] else d.working) p.names

/-- There is a directory at a path. -/
def isDirectory (d : Disk) (p : Path) : Bool :=
  match d.locate p with
  | .error _ => false
  | .ok place => d.node? place == some .directory

/-- The bytes of the file at a path. -/
def readBytes (d : Disk) (p : Path) : Except DiskError (List UInt8) := do
  match d.node? (← d.locate p) with
  | none => .error .absent
  | some .directory => .error .isDirectory
  | some (.file bytes) => .ok bytes

/-- The disk with a file of the given bytes at a path. -/
def writeBytes (d : Disk) (p : Path) (bytes : List UInt8) : Except DiskError Disk := do
  let place ← d.locate p
  match d.node? place with
  | some .directory => .error .isDirectory
  | _ => .ok (d.put place (.file bytes))

/-- The disk with a file moved to another path, in place of a file that was there. -/
def rename (d : Disk) (source target : Path) : Except DiskError Disk := do
  let source' ← d.locate source
  let target' ← d.locate target
  match d.node? source', d.node? target' with
  | none, _ => .error .absent
  | some _, some .directory => .error .isDirectory
  | some node, _ => .ok ((d.erase source').put target' node)

/-- The disk with a new directory at a path. -/
def makeDirectory (d : Disk) (p : Path) : Except DiskError Disk := do
  let place ← d.locate p
  match d.node? place with
  | some _ => .error .exists
  | none => .ok (d.put place .directory)

/-- Accepts an error of making a directory if the directory is there. -/
def settle (p : Path) (e : DiskError) : Action DiskFault Disk Unit := fun d =>
  if d.isDirectory p then (.ok (), d) else (.error ⟨e, p, none⟩, d)

/-- Makes a directory unless it is there, and before that those above it that are missing.  The
names are given from the last to the first. -/
def makePath (absolute : Bool) : (reversed : List String) → Action DiskFault Disk Unit
  | [] => settle ⟨absolute, []⟩ .exists
  | name :: above => fun d =>
    let p : Path := ⟨absolute, (name :: above).reverse⟩
    match d.makeDirectory p with
    | .ok d' => (.ok (), d')
    | .error .absent =>
      (do
        makePath absolute above
        let d' ← Action.state
        match d'.makeDirectory p with
        | .ok d'' => Action.update fun _ => d''
        | .error e => settle p e : Action DiskFault Disk Unit) d
    | .error e => settle p e d

/-- Makes a directory and those above it, as far as they are missing. -/
def makeDirectories (p : Path) : Action DiskFault Disk Unit :=
  makePath p.absolute p.names.reverse

/-- All nodes below a location, by the rest of their locations, in the order of the names. -/
def listing (d : Disk) (place : Location) : List (String × Node) :=
  let below := d.nodes.filterMap fun (location, node) =>
    if place <+: location ∧ place ≠ location then
      let name := String.intercalate "/" (location.drop place.length)
      some (match node with
        | .directory => (name ++ "/", node)
        | .file _ => (name, node))
    else none
  below.mergeSort fun a b => a.1 ≤ b.1

end Disk

end Spreadsheet.Store

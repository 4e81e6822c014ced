import Spreadsheet.Log
import Spreadsheet.Store.Disk
import Spreadsheet.Store.Error

/-!
Texts kept in files.

Each key has a file of its own in one directory.  A text is written to a second file first, which
then takes the place of the file, so that a write that fails leaves the old text readable.  Reading
turns every kind of line end into a line feed.
-/

namespace Spreadsheet.Store

/-- A store in a directory, which is made when the first text is set. -/
structure Files where
  directory : Path
deriving DecidableEq, Repr

/-- Something that goes wrong while a text is set: a directory cannot be made, after some of those
above it were made; the second file cannot be written, or only in part; or it cannot take the place
of the file. -/
inductive Mishap where
  | directory (made : Nat) (e : DiskError)
  | write (kept : Option Nat) (e : DiskError)
  | rename (e : DiskError)
deriving DecidableEq, Repr

/-- The text with every carriage return, and the line feed after it if there is one, turned into one
line feed. -/
def foldLineEnds : List Char → List Char
  | [] => []
  | '\r' :: '\n' :: rest => '\n' :: foldLineEnds rest
  | '\r' :: rest => '\n' :: foldLineEnds rest
  | c :: rest => c :: foldLineEnds rest

namespace Files

/-- The characters of keys: letters and digits of ASCII, and three marks. -/
def isKeyChar (c : Char) : Bool :=
  c.isUpper || c.isLower || c.isDigit || c == '_' || c == '.' || c == '-'

/-- The text without one line feed at its end. -/
def dropLineFeed (cs : List Char) : List Char :=
  if cs.getLast? = some '\n' then cs.dropLast else cs

/-- A key is one or more key characters, with at most one line feed after them, and not the name of
a directory itself or of the one above it. -/
def IsKey (key : String) : Prop :=
  (dropLineFeed key.toList ≠ [] ∧ (dropLineFeed key.toList).all isKeyChar = true) ∧
    (key ≠ "." ∧ key ≠ "..")

instance (key : String) : Decidable (IsKey key) :=
  inferInstanceAs (Decidable (_ ∧ _))

/-- The name of a key's file. -/
def fileName (key : String) : String :=
  key ++ ".json"

/-- The name of the second file that a key's text is written to first. -/
def draftName (key : String) : String :=
  fileName key ++ ".tmp"

/-- The path of a key's file. -/
def pathOf (s : Files) (key : String) : Path :=
  s.directory.child (fileName key)

/-- The path of a key's second file. -/
def draftOf (s : Files) (key : String) : Path :=
  s.directory.child (draftName key)

/-- The path of a key's file, if the key is one. -/
def path (s : Files) (key : String) : Except StoreError Path :=
  if IsKey key then .ok (s.pathOf key) else .error (.persistence (.invalidKey key))

/-- The path of a key's file, if it can be handed to a file system. -/
def usablePath (s : Files) (key : String) : Except StoreError Path := do
  let p ← s.path key
  if p.hasNul then .error .nulInPath else .ok p

/-- The text under a key. -/
def get (s : Files) (d : Disk) (key : String) : Except StoreError (Option String) := do
  let p ← s.usablePath key
  match d.readBytes p with
  | .error .absent => .ok none
  | .error e => .error (.persistence (.readFailed p.toText (DiskFault.message ⟨e, p, none⟩)))
  | .ok bytes =>
    match Text.Utf8.decode? bytes with
    | .error e => .error (.undecodable e)
    | .ok text => .ok (some (String.ofList (foldLineEnds text.toList)))

/-- Makes the directory, unless that goes wrong; then a part of the way to it may be made. -/
def prepare (s : Files) : Option Mishap → Action DiskFault Disk Unit
  | some (.directory made e) => do
    Disk.makeDirectories (s.directory.take made)
    Action.fail ⟨e, s.directory.take (made + 1), none⟩
  | _ => Disk.makeDirectories s.directory

/-- Writes bytes to a file, unless that goes wrong; then the file may hold a part of them. -/
def writeDraft (p : Path) (bytes : List UInt8) (mishap : Option Mishap) :
    Action DiskFault Disk Unit := fun d =>
  match d.writeBytes p bytes, mishap with
  | .error e, _ => (.error ⟨e, p, none⟩, d)
  | .ok _, some (.write none e) => (.error ⟨e, p, none⟩, d)
  | .ok _, some (.write (some kept) e) =>
    (.error ⟨e, p, none⟩, (d.writeBytes p (bytes.take kept)).toOption.getD d)
  | .ok d', _ => (.ok (), d')

/-- Puts one file in the place of another, unless that goes wrong. -/
def replace (source target : Path) (mishap : Option Mishap) : Action DiskFault Disk Unit := fun d =>
  match d.rename source target, mishap with
  | .error e, _ => (.error ⟨e, source, some target⟩, d)
  | .ok _, some (.rename e) => (.error ⟨e, source, some target⟩, d)
  | .ok d', _ => (.ok (), d')

/-- Sets the text under a key, unless something goes wrong on the way. -/
def set (s : Files) (mishap : Option Mishap) (key payload : String) :
    Action StoreError Disk Unit := do
  let p ← Action.ofExcept id (s.usablePath key)
  Action.mapError (fun fault => .persistence (.writeFailed p.toText fault.message)) do
    s.prepare mishap
    writeDraft (s.draftOf key) (Text.Utf8.encode payload) mishap
    replace (s.draftOf key) p mishap

/-- The log record of a text that was set. -/
def setRecord (s : Files) (key payload : String) : Record :=
  let size := payload.length
  let place := (s.pathOf key).toText
  ⟨.fileStore, .debug, s!"Wrote {size} bytes to {place}"⟩

/-- The store with its directory. -/
def describe (s : Files) : String :=
  "JsonFileStore(" ++ Text.quoted s.directory.toText ++ ")"

end Files

end Spreadsheet.Store

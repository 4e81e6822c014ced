import Spreadsheet.Grid.Document
import Spreadsheet.Store.Files
import Spreadsheet.Store.Memory
import Spreadsheet.Store.Sheets

/-!
Stores of texts by key.

A `Store` is one of the three kinds together with what it keeps its texts in.  A `Host` is a store
with a log, on a system that sets how deep a saved text may nest; the actions on it are what an
editor needs of its surroundings.
-/

namespace Spreadsheet

open Store (Memory Files Disk Sheets Service StoreError)

/-- A store: in memory, in files on a disk, or in worksheets of a service. -/
inductive Store where
  | memory (memory : Memory)
  | files (files : Files) (disk : Disk)
  | sheets (sheets : Sheets) (service : Service)

namespace Store

/-- Reads the text under a key. -/
def get (key : String) : Action StoreError Store (Option String)
  | .memory m => (.ok (m.get key), .memory m)
  | .files s disk => (s.get disk key, .files s disk)
  | .sheets s service =>
    let (answer, service') := s.get key service
    (answer, .sheets s service')

/-- Sets the text under a key; the answer is what is logged of it. -/
def set (key payload : String) : Action StoreError Store (List Record)
  | .memory m => (.ok [], .memory (m.set key payload))
  | .files s disk =>
    let (answer, disk') := s.set none key payload disk
    (answer.map fun _ => [s.setRecord key payload], .files s disk')
  | .sheets s service =>
    let (answer, service') := s.set key payload service
    (answer.map fun _ => [], .sheets s service')

/-- The store as it presents itself. -/
def describe : Store → String
  | .memory m => m.describe
  | .files s _ => s.describe
  | .sheets s service => s.describe service

end Store

/-- What editors share: a store, the log, last record first, and the limit for reading documents. -/
structure Host where
  store : Store
  log : List Record := []
  depthLimit : DepthLimit

namespace Host

/-- Adds records to the log. -/
def note (records : List Record) : Action StoreError Host Unit :=
  Action.update fun h => { h with log := records.reverse ++ h.log }

/-- An action on the store. -/
def onStore {α : Type} (x : Action StoreError Store α) : Action StoreError Host α :=
  Action.onPart Host.store (fun store h => { h with store := store }) x

/-- Reads the text under a key. -/
def get (key : String) : Action StoreError Host (Option String) :=
  onStore (Store.get key)

/-- Sets the text under a key. -/
def set (key payload : String) : Action StoreError Host Unit := do
  note (← onStore (Store.set key payload))

end Host

end Spreadsheet

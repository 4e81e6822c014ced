import Spreadsheet.Store.Keyed
import Spreadsheet.Text.Quoted

/-!
Texts kept in memory.

`Memory.get_set` is the law of it: a text is found under the key that it was set under, and setting
it changes what is found under no other.
-/

namespace Spreadsheet.Store

/-- Texts by key, each key once. -/
structure Memory where
  entries : List (String × String) := []
deriving DecidableEq, Repr

namespace Memory

/-- The text under a key. -/
def get (m : Memory) (key : String) : Option String :=
  m.entries.lookup key

/-- The memory with a text under a key, in place of one that was there. -/
def set (m : Memory) (key payload : String) : Memory where
  entries := putKey key payload m.entries

/-- A text is found under the key that it was set under, and nothing else changes. -/
theorem get_set (m : Memory) (key payload other : String) :
    (m.set key payload).get other = if other = key then some payload else m.get other := by
  rw [get, get, set, lookup_putKey]
  by_cases h : other = key
  · rw [h, beq_self_eq_true, if_pos rfl, if_pos rfl]
  · rw [beq_false_of_ne h, if_neg Bool.false_ne_true, if_neg h]

/-- There is a text under the key. -/
def contains (m : Memory) (key : String) : Bool :=
  (m.get key).isSome

/-- The memory with its keys in order. -/
def describe (m : Memory) : String :=
  let keys := (m.entries.map Prod.fst).mergeSort fun a b => a ≤ b
  let keys := Text.bracketed (keys.map Text.quoted)
  s!"MemoryStore(keys={keys})"

end Memory

end Spreadsheet.Store

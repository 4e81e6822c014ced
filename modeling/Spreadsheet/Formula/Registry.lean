import Spreadsheet.Formula.Reducer
import Spreadsheet.Text.Alphanumeric
import Spreadsheet.Text.Uppercase

/-!
The reducers that formulas can name.

Names are kept in upper case.  A formula calls the reducer whose name follows its equals sign, and
of several that do, the one with the longest name.
-/

namespace Spreadsheet.Formula

/-- A name that no reducer can have. -/
structure InvalidName where
  name : String
deriving DecidableEq, Repr

/-- The wording of the refusal. -/
def InvalidName.message (e : InvalidName) : String :=
  let shown := Text.quoted e.name
  s!"Invalid function name: {shown}"

/-- The reducers with their names, each name once, in the order in which they were first given. -/
structure Registry where
  entries : List (String × Reducer)

namespace Registry

/-- The registry that knows sums and averages. -/
def standard : Registry where
  entries := [("SUM", Reducer.sum), ("AVERAGE", Reducer.average)]

/-- A name is one or more letters and numbers. -/
def IsName (name : String) : Prop :=
  name ≠ "" ∧ name.toList.all Text.isAlphanumeric = true

instance (name : String) : Decidable (IsName name) :=
  inferInstanceAs (Decidable (_ ∧ _))

/-- The entries with another reducer under a name. -/
def put (name : String) (reducer : Reducer) : List (String × Reducer) → List (String × Reducer)
  | [] => [(name, reducer)]
  | entry :: entries =>
    if entry.1 = name then (name, reducer) :: entries else entry :: put name reducer entries

/-- Putting a reducer under a name changes what is found under that name alone. -/
theorem lookup_put (name other : String) (reducer : Reducer) (entries : List (String × Reducer)) :
    (put name reducer entries).lookup other =
      if other = name then some reducer else entries.lookup other := by
  induction entries with
  | nil =>
    rw [put, List.lookup_cons]
    by_cases h : other = name
    · simp [h]
    · simp [h, beq_false_of_ne h]
  | cons entry entries ih =>
    obtain ⟨k, v⟩ := entry
    rw [put]
    by_cases hk : k = name
    · -- the entry is replaced
      rw [if_pos hk, hk]
      by_cases h : other = name
      · rw [if_pos h, h, List.lookup_cons_self]
      · rw [if_neg h, List.lookup_cons, List.lookup_cons, beq_false_of_ne h]
    · -- the entry stays
      rw [if_neg hk, List.lookup_cons, List.lookup_cons, ih]
      by_cases h : other = k
      · have hne : other ≠ name := by
          intro heq
          exact hk (h.symm.trans heq)
        rw [if_neg hne, if_neg hne]
      · rw [beq_false_of_ne h]

/-- Registers a reducer, in place of an earlier one of the same name. -/
def register (r : Registry) (name : String) (reducer : Reducer) : Except InvalidName Registry :=
  if IsName name then .ok ⟨put (Text.uppercase name) reducer r.entries⟩ else .error ⟨name⟩

/-- The reducer of a name, in whatever case it is written. -/
def get? (r : Registry) (name : String) : Option Reducer :=
  r.entries.lookup (Text.uppercase name)

/-- The name stands after the equals sign of the formula. -/
def Calls (formula name : String) : Prop :=
  '=' :: name.toList <+: formula.toList

instance (formula name : String) : Decidable (Calls formula name) :=
  inferInstanceAs (Decidable (_ <+: _))

/-- The reducer that a formula calls, with its name. -/
def called? (r : Registry) (formula : String) : Option (String × Reducer) :=
  (r.entries.mergeSort fun a b => b.1.length ≤ a.1.length).find? fun entry => Calls formula entry.1

/-- The names in use. -/
def names (r : Registry) : List String :=
  r.entries.map Prod.fst

end Registry

end Spreadsheet.Formula

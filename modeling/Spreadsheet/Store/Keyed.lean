/-!
Values under keys, in a list of pairs of which the first with a key counts.

`putKey` sets the value of a key and `dropKey` takes a key out.  `lookup_putKey` and
`lookup_dropKey` say what is found afterwards: both change what stands under that key alone.
-/

namespace Spreadsheet.Store

variable {κ α : Type} [BEq κ]

/-- The entries without those of a key. -/
def dropKey (key : κ) (entries : List (κ × α)) : List (κ × α) :=
  entries.filter fun entry => entry.1 != key

/-- The entries with a value under a key, in place of one that was there. -/
def putKey (key : κ) (value : α) (entries : List (κ × α)) : List (κ × α) :=
  (key, value) :: dropKey key entries

variable [LawfulBEq κ]

/-- Dropping a key hides its own value and no other. -/
theorem lookup_dropKey (key other : κ) (entries : List (κ × α)) :
    (dropKey key entries).lookup other = if other == key then none else entries.lookup other := by
  induction entries with
  | nil => simp [dropKey]
  | cons entry entries ih =>
    obtain ⟨k, v⟩ := entry
    rw [dropKey] at ih ⊢
    by_cases hk : k = key
    · -- the entry is dropped
      rw [List.filter_cons_of_neg (by simp [hk]), ih, hk]
      by_cases ho : other = key
      · rw [ho, beq_self_eq_true, if_pos rfl, if_pos rfl]
      · rw [List.lookup_cons, beq_false_of_ne ho]
    · -- the entry stays
      rw [List.filter_cons_of_pos (by simp [hk]), List.lookup_cons, List.lookup_cons, ih]
      by_cases ho : other = k
      · have hne : other ≠ key := by
          intro h
          exact hk (ho.symm.trans h)
        rw [beq_false_of_ne hne, if_neg Bool.false_ne_true, if_neg Bool.false_ne_true]
      · rw [beq_false_of_ne ho]

/-- Putting a value under a key changes what is found under that key alone. -/
theorem lookup_putKey (key other : κ) (value : α) (entries : List (κ × α)) :
    (putKey key value entries).lookup other =
      if other == key then some value else entries.lookup other := by
  rw [putKey]
  by_cases h : other = key
  · rw [h, List.lookup_cons_self, beq_self_eq_true, if_pos rfl]
  · rw [List.lookup_cons, lookup_dropKey, beq_false_of_ne h, if_neg Bool.false_ne_true,
      if_neg Bool.false_ne_true]

end Spreadsheet.Store

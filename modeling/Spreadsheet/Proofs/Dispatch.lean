import Mathlib.Data.List.Pairwise
import Spreadsheet.Formula.Registry

/-!
The reducer that a formula calls.

The registry goes through its names from the longest to the shortest, and takes the first one that
stands after the equals sign.  `Registry.called?_eq_some_iff` says which reducer this is: the one
that is registered under the longest of the names that do.  The names are sorted stably, so what is
registered under a name is the same before and after (`Registry.lookup_sorted`).
-/

namespace Spreadsheet.Formula.Registry

variable {r : Registry} {formula name name' : String} {reducer reducer' : Reducer}

/-- The formula calls the reducer of this name: no longer name stands after its equals sign. -/
structure CallsLongest (r : Registry) (formula name : String) (reducer : Reducer) : Prop where
  calls : Calls formula name
  registered : r.entries.lookup name = some reducer
  longest : ∀ other ∈ r.names, Calls formula other → other.length ≤ name.length

theorem mem_names_of_lookup (h : r.entries.lookup name = some reducer) : name ∈ r.names := by
  obtain ⟨before, after, hentries, _⟩ := List.lookup_eq_some_iff.mp h
  rw [names, hentries]
  exact List.mem_map.mpr ⟨(name, reducer), List.mem_append_right before List.mem_cons_self, rfl⟩

/-- Of the names that a formula calls, two of one length are the same. -/
theorem Calls.eq_of_length (h : Calls formula name) (h' : Calls formula name')
    (hlength : name.length = name'.length) : name = name' := by
  have hlist : ('=' :: name.toList).length = ('=' :: name'.toList).length := by
    rw [List.length_cons, List.length_cons, String.length_toList, String.length_toList, hlength]
  have hstart := List.prefix_of_prefix_length_le h h' (Nat.le_of_eq hlist)
  exact String.toList_inj.mp (List.cons.inj (hstart.eq_of_length hlist)).2

/-- A formula calls one reducer at most. -/
theorem CallsLongest.unique (h : r.CallsLongest formula name reducer)
    (h' : r.CallsLongest formula name' reducer') : name = name' ∧ reducer = reducer' := by
  have hle := h'.longest name (mem_names_of_lookup h.registered) h.calls
  have hle' := h.longest name' (mem_names_of_lookup h'.registered) h'.calls
  obtain rfl := h.calls.eq_of_length h'.calls (Nat.le_antisymm hle hle')
  exact ⟨rfl, Option.some.inj (h.registered.symm.trans h'.registered)⟩

/-! ### Going through the names -/

/-- The order of the entries: the longer name first. -/
def longer (a b : String × Reducer) : Bool :=
  b.1.length ≤ a.1.length

theorem longer_iff (a b : String × Reducer) : longer a b = true ↔ b.1.length ≤ a.1.length := by
  rw [longer, decide_eq_true_eq]

theorem longer_trans (a b c : String × Reducer) (hab : longer a b = true)
    (hbc : longer b c = true) : longer a c = true := by
  rw [longer_iff] at hab hbc ⊢
  exact Nat.le_trans hbc hab

theorem longer_total (a b : String × Reducer) : (longer a b || longer b a) = true := by
  rw [Bool.or_eq_true, longer_iff, longer_iff]
  exact Nat.le_total _ _

/-- The entries in the order in which they are gone through. -/
def sorted (r : Registry) : List (String × Reducer) :=
  r.entries.mergeSort longer

theorem called?_eq_find? (r : Registry) (formula : String) :
    r.called? formula = r.sorted.find? fun entry => Calls formula entry.1 :=
  rfl

/-- The entries under one name keep their order: none of them is longer than another. -/
theorem filter_sorted (r : Registry) (name : String) :
    r.sorted.filter (fun entry => entry.1 == name) =
      r.entries.filter fun entry => entry.1 == name := by
  have hequal : (r.entries.filter fun entry => entry.1 == name).Pairwise
      fun a b => longer a b = true := by
    refine List.pairwise_of_forall_mem_list ?_
    intro a ha b hb
    have hname := beq_iff_eq.mp (List.mem_filter.mp ha).2
    have hname' := beq_iff_eq.mp (List.mem_filter.mp hb).2
    exact (longer_iff a b).mpr (Nat.le_of_eq (by rw [hname, hname']))
  have hsub := (List.sublist_mergeSort longer_trans longer_total hequal List.filter_sublist).filter
    fun entry => entry.1 == name
  have hperm := (List.mergeSort_perm r.entries longer).filter fun entry => entry.1 == name
  rw [List.filter_filter] at hsub
  simp only [Bool.and_self] at hsub
  exact (hsub.eq_of_length hperm.length_eq.symm).symm

/-- What is found under a name is what the first of its entries holds. -/
theorem lookup_eq_head?_filter (name : String) (entries : List (String × Reducer)) :
    entries.lookup name =
      (entries.filter fun entry => entry.1 == name).head?.map Prod.snd := by
  induction entries with
  | nil => rfl
  | cons entry entries ih =>
    obtain ⟨key, value⟩ := entry
    by_cases hkey : key = name
    · rw [hkey, List.lookup_cons_self, List.filter_cons_of_pos (by simp)]
      rfl
    · rw [List.lookup_cons, beq_false_of_ne (Ne.symm hkey),
        List.filter_cons_of_neg (by simp [hkey])]
      exact ih

/-- What is registered under a name is the same before and after. -/
theorem lookup_sorted (r : Registry) (name : String) :
    r.sorted.lookup name = r.entries.lookup name := by
  rw [lookup_eq_head?_filter, filter_sorted, ← lookup_eq_head?_filter]

/-- The first entry that is called has the longest name. -/
theorem callsLongest_of_called? (h : r.called? formula = some (name, reducer)) :
    r.CallsLongest formula name reducer := by
  rw [called?_eq_find?, List.find?_eq_some_iff_append] at h
  obtain ⟨hcalls, before, after, hsorted, hbefore⟩ := h
  rw [decide_eq_true_eq] at hcalls
  have hskipped : ∀ entry ∈ before, ¬Calls formula entry.1 := by
    intro entry hentry
    have hnot := hbefore entry hentry
    rw [Bool.not_eq_true', decide_eq_false_iff_not] at hnot
    exact hnot
  refine ⟨hcalls, ?_, ?_⟩
  · rw [← r.lookup_sorted name, List.lookup_eq_some_iff]
    refine ⟨before, after, hsorted, ?_⟩
    intro entry hentry
    rw [bne_iff_ne]
    rintro rfl
    exact hskipped entry hentry hcalls
  · intro other hother hcall
    obtain ⟨entry, hentry, rfl⟩ := List.mem_map.mp hother
    have hmem : entry ∈ r.sorted := List.mem_mergeSort.mpr hentry
    have hpairwise : r.sorted.Pairwise fun a b => longer a b = true :=
      List.pairwise_mergeSort longer_trans longer_total r.entries
    rw [hsorted] at hmem hpairwise
    rcases List.mem_append.mp hmem with hmem | hmem
    · exact absurd hcall (hskipped entry hmem)
    · rcases List.mem_cons.mp hmem with rfl | hmem
      · exact Nat.le_refl _
      · have hlonger := (List.pairwise_cons.mp (List.pairwise_append.mp hpairwise).2.1).1
        exact (longer_iff _ _).mp (hlonger entry hmem)

/-- A formula calls no reducer exactly if no name in use stands after its equals sign. -/
theorem called?_eq_none_iff (r : Registry) (formula : String) :
    r.called? formula = none ↔ ∀ name ∈ r.names, ¬Calls formula name := by
  rw [called?_eq_find?, List.find?_eq_none]
  constructor
  · intro h name hname hcalls
    obtain ⟨entry, hentry, rfl⟩ := List.mem_map.mp hname
    exact h entry (List.mem_mergeSort.mpr hentry) (decide_eq_true hcalls)
  · intro h entry hentry hcalls
    have hname : entry.1 ∈ r.names := List.mem_map.mpr ⟨entry, List.mem_mergeSort.mp hentry, rfl⟩
    exact h entry.1 hname (of_decide_eq_true hcalls)

/-- A formula calls the reducer that is registered under the longest name after its equals sign. -/
theorem called?_eq_some_iff (r : Registry) (formula name : String) (reducer : Reducer) :
    r.called? formula = some (name, reducer) ↔ r.CallsLongest formula name reducer := by
  constructor
  · exact callsLongest_of_called?
  · intro h
    cases hcalled : r.called? formula with
    | none =>
      have hname := mem_names_of_lookup h.registered
      exact absurd h.calls ((r.called?_eq_none_iff formula).mp hcalled name hname)
    | some entry =>
      obtain ⟨rfl, rfl⟩ := h.unique (callsLongest_of_called? hcalled)
      rfl

end Spreadsheet.Formula.Registry

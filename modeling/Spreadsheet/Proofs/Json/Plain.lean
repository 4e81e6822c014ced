import Spreadsheet.Proofs.Document

/-!
What an editor saves is printable ASCII.

Without an indentation and with escapes for all that is not printable ASCII, the text of a document
of strings, lists and objects holds nothing else, whatever its strings hold
(`Json.allPlain_render`).  So the text of a grid passes unharmed through what treats line ends or
other characters in a way of its own (`Grid.allPlain_write`), and it is never empty.
-/

namespace Spreadsheet

/-- A character of ASCII that is printed. -/
def IsPlain (c : Char) : Prop :=
  0x20 ≤ c.toNat ∧ c.toNat < 0x7F

instance (c : Char) : Decidable (IsPlain c) :=
  inferInstanceAs (Decidable (_ ∧ _))

namespace Json

theorem isPlain_digitChar (n : Nat) : IsPlain (Nat.digitChar n) := by
  have hdigits : ∀ m < 16, IsPlain (Nat.digitChar m) := by decide
  by_cases h : n < 16
  · exact hdigits n h
  · rw [Nat.digitChar_eq_star.mpr (Nat.not_lt.mp h)]
    decide

theorem isPlain_codeEscape {n : Nat} {c : Char} (h : c ∈ codeEscape n) : IsPlain c := by
  have hunit : ∀ m, c ∈ unitEscape m → IsPlain c := by
    intro m hm
    simp only [unitEscape, List.mem_cons, List.not_mem_nil, or_false] at hm
    rcases hm with rfl | rfl | rfl | rfl | rfl | rfl
    · decide
    · decide
    all_goals exact isPlain_digitChar _
  rw [codeEscape] at h
  split at h
  · exact hunit _ h
  · rcases List.mem_append.mp h with h | h
    · exact hunit _ h
    · exact hunit _ h

/-- Every character stands as plain ones. -/
theorem isPlain_writeChar {c c' : Char} (h : c' ∈ writeChar true c) : IsPlain c' := by
  have hpair : ∀ d : Char, IsPlain d → c' ∈ ['\\', d] → IsPlain c' := by
    intro d hd hmem
    rcases List.mem_cons.mp hmem with rfl | hmem
    · decide
    · rw [List.mem_singleton.mp hmem]
      exact hd
  unfold writeChar at h
  split at h
  · exact hpair _ (by decide) h
  split at h
  · exact hpair _ (by decide) h
  split at h
  · exact hpair _ (by decide) h
  split at h
  · exact hpair _ (by decide) h
  split at h
  · exact hpair _ (by decide) h
  split at h
  · exact hpair _ (by decide) h
  split at h
  · exact hpair _ (by decide) h
  split at h
  · exact isPlain_codeEscape h
  split at h
  · exact isPlain_codeEscape h
  · next hcontrol hbeyond =>
    -- Only what is plain stands as it is.
    rw [Bool.true_and, decide_eq_true_iff] at hbeyond
    rw [List.mem_singleton.mp h]
    exact ⟨Nat.not_lt.mp hcontrol, Nat.not_le.mp hbeyond⟩

theorem isPlain_writeString {s : String} {c : Char} (h : c ∈ writeString true s) : IsPlain c := by
  rw [writeString, List.cons_append, List.mem_cons, List.mem_append, List.mem_flatMap,
    List.mem_singleton] at h
  rcases h with rfl | ⟨_, _, h⟩ | rfl
  · decide
  · exact isPlain_writeChar h
  · decide

/-- The characters are plain, all of them. -/
def AllPlain (cs : List Char) : Prop :=
  ∀ c ∈ cs, IsPlain c

theorem AllPlain.append {cs cs' : List Char} (h : AllPlain cs) (h' : AllPlain cs') :
    AllPlain (cs ++ cs') := by
  intro c hc
  rcases List.mem_append.mp hc with hc | hc
  · exact h c hc
  · exact h' c hc

theorem AllPlain.cons {c : Char} {cs : List Char} (h : IsPlain c) (h' : AllPlain cs) :
    AllPlain (c :: cs) :=
  List.forall_mem_cons.mpr ⟨h, h'⟩

theorem allPlain_nil : AllPlain [] :=
  fun _ hc => absurd hc List.not_mem_nil

theorem allPlain_itemSeparator : AllPlain ({} : Format).itemSeparator :=
  .cons (by decide) (.cons (by decide) allPlain_nil)

theorem allPlain_nameSeparator : AllPlain ({} : Format).nameSeparator :=
  .cons (by decide) (.cons (by decide) allPlain_nil)

/-- Without an indentation there are no line ends. -/
theorem allPlain_newline (level : Nat) : AllPlain (({} : Format).newline level) :=
  allPlain_nil

theorem allPlain_renderItems {level : Nat} :
    ∀ {items : List Json}, (∀ item ∈ items, AllPlain (render {} level item)) →
      AllPlain (renderItems {} level items) := by
  intro items
  induction items with
  | nil => exact fun _ => allPlain_nil
  | cons item items ih =>
    intro h
    have hitem := h item List.mem_cons_self
    have hitems := ih fun item hitem => h item (List.mem_cons_of_mem _ hitem)
    rw [renderItems]
    exact ((allPlain_itemSeparator.append (allPlain_newline level)).append hitem).append hitems

theorem allPlain_renderFields {level : Nat} :
    ∀ {fields : List (String × Json)}, (∀ field ∈ fields, AllPlain (render {} level field.2)) →
      AllPlain (renderFields {} level fields) := by
  intro fields
  induction fields with
  | nil => exact fun _ => allPlain_nil
  | cons field fields ih =>
    intro h
    have hname : AllPlain (writeString true field.1) := fun c => isPlain_writeString
    have hvalue := h field List.mem_cons_self
    have hfields := ih fun field hfield => h field (List.mem_cons_of_mem _ hfield)
    rw [renderFields]
    exact ((((allPlain_itemSeparator.append (allPlain_newline level)).append hname).append
      allPlain_nameSeparator).append hvalue).append hfields

/-- A document of strings, lists and objects on one line is printable ASCII. -/
theorem allPlain_render {depth : Nat} {v : Json} (hv : Textual depth v) :
    ∀ level, AllPlain (render {} level v) := by
  induction hv with
  | string => exact fun level c => isPlain_writeString
  | @array _ items _ ih =>
    intro level
    have hclose : AllPlain [']'] := .cons (by decide) allPlain_nil
    cases items with
    | nil => exact .cons (by decide) hclose
    | cons item items =>
      have hopen : AllPlain ('[' :: ({} : Format).newline (level + 1)) :=
        .cons (by decide) (allPlain_newline _)
      have hitem := ih item List.mem_cons_self (level + 1)
      have hitems := allPlain_renderItems fun item hitem =>
        ih item (List.mem_cons_of_mem _ hitem) (level + 1)
      rw [render]
      exact (((hopen.append hitem).append hitems).append (allPlain_newline level)).append hclose
  | @object _ fields _ ih =>
    intro level
    have hclose : AllPlain ['}'] := .cons (by decide) allPlain_nil
    cases fields with
    | nil => exact .cons (by decide) hclose
    | cons field fields =>
      have hopen : AllPlain ('{' :: ({} : Format).newline (level + 1)) :=
        .cons (by decide) (allPlain_newline _)
      have hname : AllPlain (writeString true field.1) := fun c => isPlain_writeString
      have hvalue := ih field List.mem_cons_self (level + 1)
      have hfields := allPlain_renderFields fun field hfield =>
        ih field (List.mem_cons_of_mem _ hfield) (level + 1)
      rw [render]
      exact (((((hopen.append hname).append allPlain_nameSeparator).append hvalue).append
        hfields).append (allPlain_newline level)).append hclose

end Json

namespace Grid

/-- The text that an editor saves is printable ASCII. -/
theorem allPlain_write (g : Grid) : Json.AllPlain (g.write {}).toList := by
  rw [write, Json.write, String.toList_ofList]
  exact Json.allPlain_render (g.textual_written false .least) 0

/-- The text that an editor saves is not empty. -/
theorem write_ne_empty (g : Grid) : g.write {} ≠ "" := by
  intro hempty
  have hread := g.read_write_default .least
  rw [hempty] at hread
  cases hread

end Grid

end Spreadsheet

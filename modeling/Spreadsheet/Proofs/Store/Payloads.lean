import Spreadsheet.Proofs.Store.Directories

/-!
Texts set one after the other in a store of files.

`Files.Sets` is a run of settings that all succeed.  **What is read of a key is the text that was
set last under it, with its line ends folded** (`Files.get_of_sets`): it comes back unchanged
exactly if it holds no carriage return, since texts are written as they are and read with every line
end turned into a line feed.

A key that was never set is read as if the directory had been made and nothing else been done.
There is nothing under it if there was nothing before, on a disk where everything is in a directory
(`Disk.IsTree`): the directories that are made are all above the place of its file.
-/

namespace Spreadsheet.Store

open Text.Utf8 (encode)

namespace Files

open Disk (maxName)

variable {s : Files} {mishap : Option Mishap} {key other payload : String} {d d' : Disk}

/-- What is read of a key depends on its file alone. -/
theorem get_congr (h : d.readBytes (s.pathOf key) = d'.readBytes (s.pathOf key)) :
    s.get d key = s.get d' key := by
  cases husable : s.usablePath key with
  | error e =>
    unfold Files.get
    rw [husable]
    rfl
  | ok p =>
    obtain ⟨rfl, _⟩ := usablePath_eq_ok husable
    rw [get_of_usable husable, get_of_usable husable, h]

/-- Nothing is found exactly where there is no file. -/
theorem get_eq_none_iff : s.get d key = .ok none ↔
    s.usablePath key = .ok (s.pathOf key) ∧ d.readBytes (s.pathOf key) = .error .absent := by
  cases husable : s.usablePath key with
  | error e =>
    unfold Files.get
    rw [husable]
    exact ⟨nofun, nofun⟩
  | ok p =>
    obtain ⟨rfl, _⟩ := usablePath_eq_ok husable
    rw [get_of_usable husable]
    constructor
    · intro h
      split at h
      · next habsent => exact ⟨rfl, habsent⟩
      · cases h
      · split at h
        · cases h
        · cases h
    · rintro ⟨-, habsent⟩
      rw [habsent]

/-- When a text was set, the directory is there, made by that or before. -/
theorem opens_of_set (h : (s.set mishap key payload d).1 = .ok ()) :
    (∃ above, (Disk.makeDirectories s.directory d).2.Opens s.directory above) ∧
      ∃ above, (s.set mishap key payload d).2.Opens s.directory above := by
  obtain ⟨d₁, -, hready, -⟩ := s.readBytes_set mishap key payload d
  obtain ⟨rfl, hopens⟩ := hready h
  constructor
  · exact hopens
  · obtain ⟨-, place, hplace, -⟩ := holds_of_set h
    obtain ⟨above, hopens, -⟩ := Disk.exists_opens hplace
    exact ⟨above, hopens⟩

/-- Setting a text does to the files of other keys what making the directory does. -/
theorem readBytes_of_set (h : (s.set mishap key payload d).1 = .ok ()) (hother : other ≠ key) :
    (s.set mishap key payload d).2.readBytes (s.pathOf other) =
      (Disk.makeDirectories s.directory d).2.readBytes (s.pathOf other) := by
  obtain ⟨d₁, -, hready, hread⟩ := s.readBytes_set mishap key payload d
  obtain ⟨rfl, -⟩ := hready h
  exact hread other (.inl hother)

/-! ### A run of settings -/

/-- The texts are set one after the other, each with success, and lead from one disk to another. -/
inductive Sets (s : Files) (d : Disk) : List (String × String) → Disk → Prop
  | nil : Sets s d [] d
  | concat {d' : Disk} {entries : List (String × String)} (hsets : Sets s d entries d')
      (mishap : Option Mishap) (key payload : String)
      (hset : (s.set mishap key payload d').1 = .ok ()) :
      Sets s d (entries ++ [(key, payload)]) (s.set mishap key payload d').2

/-- The text that was set last under a key. -/
def lastSet? (entries : List (String × String)) (key : String) : Option String :=
  entries.reverse.lookup key

theorem lastSet?_concat (entries : List (String × String)) (key payload other : String) :
    lastSet? (entries ++ [(key, payload)]) other =
      if other = key then some payload else lastSet? entries other := by
  rw [lastSet?, List.reverse_append, List.reverse_singleton, List.singleton_append,
    List.lookup_cons]
  by_cases heq : other = key
  · rw [if_pos heq, beq_iff_eq.mpr heq]
  · rw [if_neg heq, beq_eq_false_iff_ne.mpr heq]
    rfl

variable {entries : List (String × String)}

theorem Sets.eq_of_empty (h : s.Sets d entries d') (hentries : entries = []) : d' = d := by
  cases h with
  | nil => rfl
  | concat => exact absurd hentries (List.concat_ne_nil _ _)

/-- The file of a key holds the text that was set last. -/
theorem Sets.holds (h : s.Sets d entries d') (hlast : lastSet? entries key = some payload) :
    s.Holds d' key (encode payload) := by
  induction h with
  | nil => cases hlast
  | concat hsets mishap newest text hset ih =>
    rw [lastSet?_concat] at hlast
    split at hlast
    · next heq =>
      cases hlast
      rw [heq]
      exact holds_of_set hset
    · next hne => exact (ih hlast).set (.inl hne)

theorem Sets.opens (h : s.Sets d entries d') (hentries : entries ≠ []) :
    (∃ above, (Disk.makeDirectories s.directory d).2.Opens s.directory above) ∧
      ∃ above, d'.Opens s.directory above := by
  induction h with
  | nil => exact absurd rfl hentries
  | @concat d' entries hsets mishap newest text hset ih =>
    refine ⟨?_, (opens_of_set hset).2⟩
    by_cases hempty : entries = []
    · rw [← hsets.eq_of_empty hempty]
      exact (opens_of_set hset).1
    · exact (ih hempty).1

/-- The file of a key that was never set is as if only the directory had been made. -/
theorem Sets.readBytes (h : s.Sets d entries d') (hentries : entries ≠ [])
    (hnever : lastSet? entries key = none) :
    d'.readBytes (s.pathOf key) =
      (Disk.makeDirectories s.directory d).2.readBytes (s.pathOf key) := by
  induction h with
  | nil => exact absurd rfl hentries
  | @concat d' entries hsets mishap newest text hset ih =>
    rw [lastSet?_concat] at hnever
    split at hnever
    · cases hnever
    · next hne =>
      rw [readBytes_of_set hset hne]
      by_cases hempty : entries = []
      · rw [hsets.eq_of_empty hempty]
      · -- The directory is there since the first setting.
        obtain ⟨-, above, hopens⟩ := hsets.opens hempty
        rw [hopens.makeDirectories, ih hempty hnever]

/-- **What a run of settings leaves under a key.**  The text that was set last is found with its
line ends folded, hence unchanged exactly if it holds no carriage return.  A key that was never set
is read as if only the directory had been made, and if there was nothing under it there is nothing
under it, provided that a file of its name can be. -/
theorem get_of_sets (h : s.Sets d entries d') (key : String) :
    (∀ payload, lastSet? entries key = some payload →
      s.get d' key = .ok (some (String.ofList (foldLineEnds payload.toList))) ∧
      (s.get d' key = .ok (some payload) ↔ '\r' ∉ payload.toList)) ∧
    (lastSet? entries key = none →
      (entries ≠ [] → s.get d' key = s.get (Disk.makeDirectories s.directory d).2 key) ∧
      (d.IsTree → ".." ∉ s.directory.names → (fileName key).utf8ByteSize ≤ maxName →
        s.get d key = .ok none → s.get d' key = .ok none)) := by
  refine ⟨fun payload hlast => ?_, fun hnever => ⟨fun hentries => ?_, ?_⟩⟩
  · have hget := (h.holds hlast).get
    refine ⟨hget, ?_⟩
    rw [hget, ← foldLineEnds_eq_self_iff]
    constructor
    · intro heq
      have htext : String.ofList (foldLineEnds payload.toList) = payload := by
        injection heq with heq
        injection heq
      rw [← String.toList_ofList (l := foldLineEnds payload.toList), htext]
    · intro heq
      rw [heq, String.ofList_toList]
  · exact get_congr (h.readBytes hentries hnever)
  · intro htree hup hlength hnone
    by_cases hentries : entries = []
    · rw [h.eq_of_empty hentries]
      exact hnone
    · obtain ⟨⟨above, hopens⟩, -⟩ := h.opens hentries
      obtain ⟨husable, habsent⟩ := get_eq_none_iff.mp hnone
      rw [get_eq_none_iff, h.readBytes hentries hnever]
      exact ⟨husable, htree.readBytes_makeDirectories hup (fileName_ne_parent key) hlength hopens
        habsent⟩

/-- A store in a directory of the working directory. -/
def shelf : Files :=
  ⟨⟨false, ["store"]⟩⟩

/-- Of two texts under one key the second is found, without its carriage return. -/
theorem get_of_sets_twice : ∃ d',
    shelf.Sets {} [("k", "a\r\nb"), ("j", "x"), ("k", "c\rd\n")] d' ∧
      shelf.get d' "k" = .ok (some "c\nd\n") ∧ shelf.get d' "k" ≠ .ok (some "c\rd\n") ∧
      shelf.get d' "j" = .ok (some "x") ∧ shelf.get d' "i" = .ok none := by
  have hfirst : shelf.Sets {} [("k", "a\r\nb")] _ := Sets.nil.concat none "k" "a\r\nb" rfl
  have hsecond : shelf.Sets {} [("k", "a\r\nb"), ("j", "x")] _ := hfirst.concat none "j" "x" rfl
  have hsets : shelf.Sets {} [("k", "a\r\nb"), ("j", "x"), ("k", "c\rd\n")] _ :=
    hsecond.concat none "k" "c\rd\n" rfl
  refine ⟨_, hsets, ?_, ?_, ?_, ?_⟩
  · exact ((get_of_sets hsets "k").1 "c\rd\n" rfl).1
  · rw [ne_eq, ((get_of_sets hsets "k").1 "c\rd\n" rfl).2]
    decide
  · exact ((get_of_sets hsets "j").1 "x" rfl).2.mpr (by decide)
  · exact ((get_of_sets hsets "i").2 rfl).2 (Disk.isTree_empty []) (by decide) (by decide) rfl

/-- Not every text comes back unchanged, even in a store that is used for the first time. -/
theorem get_not_unchanged :
    ¬∀ (s : Files) (entries : List (String × String)) (d' : Disk), s.Sets {} entries d' →
      ∀ key, IsKey key → s.get d' key = .ok (lastSet? entries key) := by
  intro h
  have hset : (shelf.set none "k" "a\rb" {}).1 = .ok () := rfl
  have hget := h shelf _ _ (Sets.nil.concat none "k" "a\rb" hset) "k" (by decide)
  rw [(holds_of_set hset).get] at hget
  injection hget with htext
  revert htext
  decide

end Files

end Spreadsheet.Store

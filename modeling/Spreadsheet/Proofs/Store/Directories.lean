import Mathlib.Data.List.Induction
import Mathlib.Tactic.ByContra
import Spreadsheet.Proofs.Store.Files

/-!
Making directories, seen from what is read.

On a disk where everything is in a directory (`Disk.IsTree`), making a directory adds directories on
the way to it and nothing else, and the disk stays a tree.  What could be read before is read as
before (`Disk.Extends.readBytes_eq`).  A missing entry of the directory stays missing, unless the
way to it goes up again or has a name that no file system takes
(`Disk.IsTree.readBytes_makeDirectories_take`).
-/

namespace Spreadsheet.Store

namespace Disk

variable {d d' : Disk} {p : Path} {name : String} {names : List String} {above place : Location}

/-! ### What is there goes on to be found -/

theorem Extends.walk_eq (h : Extends d d') (names : List String) :
    ∀ start, d.walk start names = .error .absent ∨ d'.walk start names = d.walk start names := by
  induction names with
  | nil => exact fun _ => .inr rfl
  | cons name names ih =>
    intro start
    rw [walk, walk]
    cases hstart : d.node? start with
    | none => exact .inl rfl
    | some node =>
      rw [h.node start node hstart]
      cases node with
      | file bytes => exact .inr rfl
      | directory =>
        cases enter start name with
        | error e => exact .inr rfl
        | ok next => exact ih next

theorem Extends.locate_eq (h : Extends d d') (p : Path) :
    d.locate p = .error .absent ∨ d'.locate p = d.locate p := by
  rw [locate, locate, h.working]
  split
  · exact .inr rfl
  · exact h.walk_eq p.names _

/-- Only what is missing can be read in another way when something is added. -/
theorem Extends.readBytes_eq (h : Extends d d') (hpresent : d.readBytes p ≠ .error .absent) :
    d'.readBytes p = d.readBytes p := by
  rcases h.locate_eq p with habsent | hlocate
  · rw [readBytes, habsent] at hpresent
    exact absurd rfl hpresent
  · rw [readBytes] at hpresent
    rw [readBytes, readBytes, hlocate]
    cases hplace : d.locate p with
    | error e => rfl
    | ok place =>
      rw [hplace] at hpresent
      simp only [bind, Except.bind] at hpresent ⊢
      cases hnode : d.node? place with
      | none =>
        rw [hnode] at hpresent
        exact absurd rfl hpresent
      | some node => rw [h.node place node hnode]

theorem exists_opens_of_isDirectory (h : d.isDirectory p = true) : ∃ above, d.Opens p above := by
  unfold isDirectory locate at h
  split at h
  · cases h
  · next place hplace =>
    split at hplace
    · cases hplace
    · exact ⟨place, hplace, beq_iff_eq.mp h⟩

/-- Where a path leads to a directory, its first names do. -/
theorem Opens.take (h : d.Opens p above) (count : Nat) :
    ∃ above', d.Opens (p.take count) above' := by
  obtain ⟨hwalk, hdirectory⟩ := h
  rw [← List.take_append_drop count p.names, walk_append] at hwalk
  cases hfirst : d.walk (d.base p) (p.names.take count) with
  | error e =>
    rw [hfirst] at hwalk
    cases hwalk
  | ok place =>
    rw [hfirst] at hwalk
    refine ⟨place, hfirst, ?_⟩
    change d.walk place (p.names.drop count) = .ok above at hwalk
    cases hrest : p.names.drop count with
    | nil =>
      rw [hrest] at hwalk
      cases hwalk
      exact hdirectory
    | cons name names =>
      rw [hrest, walk] at hwalk
      split at hwalk
      · cases hwalk
      · cases hwalk
      · assumption

/-- Nothing is made where there is a directory. -/
theorem Opens.makeDirectories (h : d.Opens p above) : (makeDirectories p d).2 = d := by
  rw [Disk.makeDirectories]
  rcases hreversed : p.names.reverse with _ | ⟨last, reversed⟩
  · rw [makePath, settle_state]
  have hp : (⟨p.absolute, (last :: reversed).reverse⟩ : Path) = p := by
    rw [← hreversed, List.reverse_reverse]
  have hmake : ∃ e, d.makeDirectory p = .error e ∧ e ≠ .absent := by
    rw [makeDirectory, locate]
    split
    · exact ⟨.nameTooLong, rfl, DiskError.noConfusion⟩
    · change ∃ e, (d.walk (d.base p) p.names >>= _) = _ ∧ _
      rw [h.1]
      refine ⟨.exists, ?_, DiskError.noConfusion⟩
      simp only [bind, Except.bind, h.2]
  obtain ⟨e, hmake, hpresent⟩ := hmake
  -- Only a missing name above would make it try further.
  rw [makePath]
  dsimp only
  rw [hp, hmake]
  split
  · next hmade => cases hmade
  · next hmissing =>
    cases hmissing
    exact absurd rfl hpresent
  · exact settle_state p _ d

/-! ### What is made -/

/-- Without the name `..`, a path leads to the place that it spells. -/
theorem eq_append_of_walk (hup : ".." ∉ names) :
    ∀ {start place}, d.walk start names = .ok place → place = start ++ names := by
  induction names with
  | nil =>
    intro start place h
    cases h
    exact (List.append_nil start).symm
  | cons name names ih =>
    intro start place h
    obtain ⟨hname, hup⟩ := List.ne_and_not_mem_of_not_mem_cons hup
    rw [walk] at h
    split at h
    · cases h
    · cases h
    · cases henter : enter start name with
      | error e =>
        rw [henter] at h
        cases h
      | ok next =>
        rw [henter] at h
        rw [ih hup h, eq_append_of_enter hname.symm henter, List.append_assoc]
        rfl

/-- Making a directory changes nothing at the places that are deeper than it. -/
theorem node?_makeDirectories (hup : ".." ∉ p.names) (d : Disk)
    (hplace : (d.base p).length + p.names.length < place.length) :
    (makeDirectories p d).2.node? place = d.node? place := by
  refine (makePath_induction (R := fun d d' => d'.working = d.working ∧
    ((d.base p).length + p.names.length < place.length → d'.node? place = d.node? place))
    (fun _ => ⟨rfl, fun _ => rfl⟩) ?_ p.absolute p.names.reverse ?_ d).2 hplace
  · rintro d d' d'' ⟨hworking, hnode⟩ ⟨hworking', hnode'⟩
    refine ⟨hworking'.trans hworking, fun hlt => ?_⟩
    have hlt' : (d'.base p).length + p.names.length < place.length := by
      rw [base, hworking]
      exact hlt
    rw [hnode' hlt', hnode hlt]
  · -- One directory is made on the way, at a place no longer than the whole path.
    intro d d' last above hsuffix hmade
    obtain ⟨made, hlocate, hnone, rfl⟩ := makeDirectory_eq_ok hmade
    refine ⟨rfl, fun hlt => ?_⟩
    have hmem : ".." ∉ (last :: above).reverse := fun hmem =>
      hup (List.mem_reverse.mp (hsuffix.mem (List.mem_reverse.mp hmem)))
    rw [locate] at hlocate
    split at hlocate
    · cases hlocate
    have hlength : made.length ≤ (d.base p).length + p.names.length := by
      have heq : made = d.base p ++ (last :: above).reverse := eq_append_of_walk hmem hlocate
      have hle := hsuffix.length_le
      rw [List.length_reverse] at hle
      rw [heq, List.length_append, List.length_reverse]
      omega
    rw [d.node?_put (ne_nil_of_node? (ne_directory_of_node? hnone)), if_neg]
    rintro rfl
    omega

/-- All files are older than the directories that are made. -/
theorem node?_file_of_makeDirectories {bytes : List UInt8}
    (h : (makeDirectories p d).2.node? place = some (.file bytes)) :
    d.node? place = some (.file bytes) := by
  refine makePath_induction (R := fun d d' =>
    d'.node? place = some (.file bytes) → d.node? place = some (.file bytes))
    (fun _ => id) (fun hfirst hsecond => hfirst ∘ hsecond) p.absolute p.names.reverse ?_ d h
  intro d d' last above _ hmade hfile
  obtain ⟨made, -, hnone, rfl⟩ := makeDirectory_eq_ok hmade
  rw [d.node?_put (ne_nil_of_node? (ne_directory_of_node? hnone))] at hfile
  split at hfile
  · cases hfile
  · exact hfile

/-! ### Trees -/

/-- Everything on the disk is in a directory. -/
def IsTree (d : Disk) : Prop :=
  ∀ above name, d.node? (above ++ [name]) ≠ none → d.node? above = some .directory

theorem isTree_empty (working : Location) : IsTree ⟨[], working⟩ := by
  intro above name hnode
  rw [node?, if_neg (List.concat_ne_nil _ _)] at hnode
  exact absurd rfl hnode

/-- A tree stays one if something is put into a directory, but not in the place of another one. -/
theorem IsTree.put (h : d.IsTree) (habove : d.node? above = some .directory) (name : String)
    (hfree : d.node? (above ++ [name]) ≠ some .directory) (node : Node) :
    (d.put (above ++ [name]) node).IsTree := by
  intro above' name' hnode
  have hdirectory : d.node? above' = some .directory := by
    rw [d.node?_put (List.concat_ne_nil _ _)] at hnode
    split at hnode
    · next heq =>
      rw [List.append_inj_left' heq rfl]
      exact habove
    · exact h above' name' hnode
  rw [d.node?_put (List.concat_ne_nil _ _), if_neg]
  · exact hdirectory
  · rintro rfl
    exact hfree hdirectory

/-- A tree stays one if something is taken away that is no directory. -/
theorem IsTree.erase (h : d.IsTree) (hfree : d.node? place ≠ some .directory) :
    (d.erase place).IsTree := by
  intro above name hnode
  rw [d.node?_erase (ne_nil_of_node? hfree)] at hnode ⊢
  split at hnode
  · exact absurd rfl hnode
  · have hdirectory := h above name hnode
    rw [if_neg]
    · exact hdirectory
    · rintro rfl
      exact hfree hdirectory

theorem isTree_makeDirectory (h : d.IsTree) {absolute : Bool} {last : String}
    {reversed : List String}
    (hmade : d.makeDirectory ⟨absolute, (last :: reversed).reverse⟩ = .ok d') : d'.IsTree := by
  obtain ⟨place, hplace, hnone, rfl⟩ := makeDirectory_eq_ok hmade
  rw [List.reverse_cons] at hplace
  change d.locate (Path.child ⟨absolute, reversed.reverse⟩ last) = .ok place at hplace
  obtain ⟨above, ⟨-, habove⟩, henter⟩ := exists_opens hplace
  by_cases hlast : last = ".."
  · -- What is above a directory is there.
    rw [enter, if_pos hlast] at henter
    cases henter
    induction above using List.reverseRecOn with
    | nil => cases hnone
    | append_singleton init name _ =>
      have hnode : d.node? (init ++ [name]) ≠ none := by
        rw [habove]
        exact Option.some_ne_none _
      rw [List.dropLast_concat, h init name hnode] at hnone
      cases hnone
  · rw [eq_append_of_enter hlast henter] at hnone ⊢
    exact h.put habove last (ne_directory_of_node? hnone) .directory

theorem isTree_makeDirectories (h : d.IsTree) (p : Path) : (makeDirectories p d).2.IsTree :=
  makePath_induction (R := fun d d' => d.IsTree → d'.IsTree) (fun _ => id)
    (fun hfirst hsecond => hsecond ∘ hfirst) p.absolute p.names.reverse
    (fun _ hmade htree => isTree_makeDirectory htree hmade) d h

/-- Above everything there are directories only. -/
theorem IsTree.directory (h : d.IsTree) (hnames : names ≠ [])
    (hnode : d.node? (above ++ names) ≠ none) : d.node? above = some .directory := by
  induction names using List.reverseRecOn with
  | nil => exact absurd rfl hnames
  | append_singleton names name ih =>
    rw [← List.append_assoc] at hnode
    have hdirectory := h (above ++ names) name hnode
    by_cases hempty : names = []
    · rwa [hempty, List.append_nil] at hdirectory
    · refine ih hempty ?_
      rw [hdirectory]
      exact nofun

/-- No name is missing on the way to what there is. -/
theorem IsTree.walk_ne_absent (h : d.IsTree) (hup : ".." ∉ names) :
    ∀ {start}, d.node? (start ++ names) ≠ none → d.walk start names ≠ .error .absent := by
  induction names with
  | nil => exact fun _ => nofun
  | cons name names ih =>
    intro start hnode
    obtain ⟨hname, hup⟩ := List.ne_and_not_mem_of_not_mem_cons hup
    rw [walk, h.directory (List.cons_ne_nil name names) hnode]
    cases henter : enter start name with
    | error e =>
      rw [enter, if_neg hname.symm] at henter
      split at henter
      · cases henter
        intro herror
        cases herror
      · cases henter
    | ok next =>
      refine ih hup ?_
      rw [eq_append_of_enter hname.symm henter, List.append_assoc]
      exact hnode

/-- No name can be looked up below a file. -/
theorem IsTree.walk_below_file (h : d.IsTree) {front rest : List String} (hup : ".." ∉ front)
    (hrest : rest ≠ []) {start : Location} {bytes : List UInt8}
    (hfile : d.node? (start ++ front) = some (.file bytes)) :
    ∃ e, d.walk start (front ++ rest) = .error e ∧ e ≠ .absent := by
  have hfront : d.walk start front ≠ .error .absent := by
    refine h.walk_ne_absent hup ?_
    rw [hfile]
    exact nofun
  rw [walk_append]
  cases hwalk : d.walk start front with
  | error e =>
    refine ⟨e, rfl, ?_⟩
    rintro rfl
    exact hfront hwalk
  | ok place =>
    obtain ⟨name, rest, rfl⟩ := List.exists_cons_of_ne_nil hrest
    refine ⟨.notDirectory, ?_, nofun⟩
    show d.walk place (name :: rest) = _
    rw [eq_append_of_walk hup hwalk, walk, hfile]

/-! ### What is missing -/

theorem readBytes_eq_absent (h : d.readBytes p = .error .absent) :
    d.locate p = .error .absent ∨ ∃ place, d.locate p = .ok place ∧ d.node? place = none := by
  rw [readBytes] at h
  cases hlocate : d.locate p with
  | error e =>
    rw [hlocate] at h
    cases h
    exact .inl rfl
  | ok place =>
    rw [hlocate] at h
    simp only [bind, Except.bind] at h
    split at h
    · next hnone => exact .inr ⟨place, rfl, hnone⟩
    · cases h
    · cases h

/-- At the place that a path spells there is nothing, and no file is on the way. -/
structure Lacks (d : Disk) (p : Path) : Prop where
  length : p.toText.utf8ByteSize ≤ maxPath
  node : d.node? (d.base p ++ p.names) = none
  file : ∀ front, front <+: p.names → ∀ bytes, d.node? (d.base p ++ front) ≠ some (.file bytes)

theorem locate_of_length (h : p.toText.utf8ByteSize ≤ maxPath) :
    d.locate p = d.walk (d.base p) p.names := by
  rw [locate, if_neg (Nat.not_lt.mpr h)]
  rfl

/-- What is missing on a tree is not there, and no file is in the way. -/
theorem IsTree.lacks (h : d.IsTree) (hup : ".." ∉ p.names)
    (habsent : d.readBytes p = .error .absent) : d.Lacks p := by
  have hlength : p.toText.utf8ByteSize ≤ maxPath := by
    by_contra hlong
    rw [readBytes, locate, if_pos (Nat.lt_of_not_le hlong)] at habsent
    cases habsent
  have hwalk := readBytes_eq_absent habsent
  rw [locate_of_length hlength] at hwalk
  have hnone : d.node? (d.base p ++ p.names) = none := by
    rcases hwalk with herror | ⟨place, hplace, hnone⟩
    · by_contra hnode
      exact h.walk_ne_absent hup hnode herror
    · rwa [eq_append_of_walk hup hplace] at hnone
  refine ⟨hlength, hnone, ?_⟩
  rintro front ⟨rest, hrest⟩ bytes hfile
  by_cases hempty : rest = []
  · rw [hempty, List.append_nil] at hrest
    rw [← hrest, hfile] at hnone
    cases hnone
  · have hfront : ".." ∉ front := fun hmem => hup (hrest ▸ List.mem_append_left rest hmem)
    obtain ⟨e, hbelow, hpresent⟩ := h.walk_below_file hfront hempty hfile
    rw [hrest] at hbelow
    rw [hbelow] at hwalk
    rcases hwalk with herror | ⟨place, hplace, -⟩
    · cases herror
      exact hpresent rfl
    · cases hplace

/-- Where no file is in the way, looking for a place ends there, or where a name is missing, or at a
name that is too long. -/
theorem walk_cases (hup : ".." ∉ names) : ∀ start,
    (∀ front, front <+: names → ∀ bytes, d.node? (start ++ front) ≠ some (.file bytes)) →
      d.walk start names = .error .absent ∨
      (d.walk start names = .error .nameTooLong ∧ ∃ name ∈ names, maxName < name.utf8ByteSize) ∨
      d.walk start names = .ok (start ++ names) := by
  induction names with
  | nil =>
    intro start _
    rw [List.append_nil]
    exact .inr (.inr rfl)
  | cons name names ih =>
    intro start hfile
    obtain ⟨hname, hup⟩ := List.ne_and_not_mem_of_not_mem_cons hup
    rw [walk]
    cases hstart : d.node? start with
    | none => exact .inl rfl
    | some node =>
      cases node with
      | file bytes =>
        have hstart' := hfile [] (List.nil_prefix) bytes
        rw [List.append_nil] at hstart'
        exact absurd hstart hstart'
      | directory =>
        dsimp only
        rw [enter, if_neg hname.symm]
        by_cases hlong : maxName < name.utf8ByteSize
        · rw [if_pos hlong]
          exact .inr (.inl ⟨rfl, name, List.mem_cons_self, hlong⟩)
        · rw [if_neg hlong]
          have hnext := ih hup (start ++ [name]) fun front hfront bytes => by
            rw [List.append_assoc]
            exact hfile (name :: front) (List.cons_prefix_cons.mpr ⟨rfl, hfront⟩) bytes
          rw [List.append_assoc] at hnext
          rcases hnext with habsent | ⟨hlong, other, hmem, hother⟩ | hplace
          · exact .inl habsent
          · exact .inr (.inl ⟨hlong, other, List.mem_cons_of_mem name hmem, hother⟩)
          · exact .inr (.inr hplace)

/-- What a disk lacks is missing, unless a name is too long to be looked up. -/
theorem Lacks.readBytes (h : d.Lacks p) (hup : ".." ∉ p.names) :
    d.readBytes p = .error .absent ∨
    (d.readBytes p = .error .nameTooLong ∧ ∃ name ∈ p.names, maxName < name.utf8ByteSize) := by
  rw [Disk.readBytes, locate_of_length h.length]
  rcases walk_cases hup (d.base p) h.file with habsent | ⟨hlong, hname⟩ | hplace
  · rw [habsent]
    exact .inl rfl
  · rw [hlong]
    exact .inr ⟨rfl, hname⟩
  · rw [hplace]
    simp only [bind, Except.bind]
    rw [h.node]
    exact .inl rfl

/-- Making the way to a directory does not give it an entry. -/
theorem Lacks.makeDirectories_take (h : d.Lacks (p.child name)) (hup : ".." ∉ p.names)
    (count : Nat) : (makeDirectories (p.take count) d).2.Lacks (p.child name) := by
  have hbase : (makeDirectories (p.take count) d).2.base (p.child name) =
      d.base (p.child name) := by
    unfold base
    rw [(extends_makeDirectories _ d).working]
  refine ⟨h.length, ?_, fun front hfront bytes hfile => ?_⟩
  · rw [hbase, node?_makeDirectories, h.node]
    · exact fun hmem => hup (List.mem_of_mem_take hmem)
    · rw [List.length_append]
      refine Nat.add_lt_add_left ?_ _
      show (p.names.take count).length < (p.names ++ [name]).length
      rw [List.length_take, List.length_append, List.length_singleton]
      omega
  · rw [hbase] at hfile
    exact h.file front hfront bytes (node?_file_of_makeDirectories hfile)

/-- A missing entry of a directory is missing after a part of the way to the directory was made, or
all of it, unless a name is too long to be looked up there. -/
theorem IsTree.readBytes_makeDirectories_take (htree : d.IsTree) (hup : ".." ∉ p.names)
    (hname : name ≠ "..") (count : Nat) (habsent : d.readBytes (p.child name) = .error .absent) :
    (makeDirectories (p.take count) d).2.readBytes (p.child name) = .error .absent ∨
    ((makeDirectories (p.take count) d).2.readBytes (p.child name) = .error .nameTooLong ∧
      ∃ name' ∈ (p.child name).names, maxName < name'.utf8ByteSize) := by
  have hup' : ".." ∉ (p.child name).names := by
    show ".." ∉ p.names ++ [name]
    rw [List.mem_append, List.mem_singleton]
    exact not_or.mpr ⟨hup, hname.symm⟩
  exact ((htree.lacks hup' habsent).makeDirectories_take hup count).readBytes hup'

/-- An entry that is not there is not there after its directory was made either. -/
theorem IsTree.readBytes_makeDirectories (htree : d.IsTree) (hup : ".." ∉ p.names)
    (hname : name ≠ "..") (hlength : name.utf8ByteSize ≤ maxName)
    (hopens : (makeDirectories p d).2.Opens p above)
    (habsent : d.readBytes (p.child name) = .error .absent) :
    (makeDirectories p d).2.readBytes (p.child name) = .error .absent := by
  have hcases := htree.readBytes_makeDirectories_take hup hname p.names.length habsent
  rw [Path.take, List.take_length] at hcases
  rcases hcases with habsent' | ⟨hlong, _⟩
  · exact habsent'
  · -- The directory is found, and the name of the entry is short enough to be looked up in it.
    rw [readBytes, hopens.locate_child, enter, if_neg hname,
      if_neg (Nat.not_lt.mpr hlength)] at hlong
    split at hlong
    · next hpath =>
      rw [readBytes, locate, if_pos hpath] at habsent
      cases habsent
    · simp only [bind, Except.bind] at hlong
      split at hlong
      · cases hlong
      · cases hlong
      · cases hlong

end Disk

end Spreadsheet.Store

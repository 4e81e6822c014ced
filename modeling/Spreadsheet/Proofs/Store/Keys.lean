import Spreadsheet.Proofs.Store.Isolation

/-!
Which keys a store of files takes, and where it goes with them.

A key is meant to be a name of plain characters (`Files.IsPlainKey`).  One more kind is taken, with
a line feed after such a name (`Files.isKey_iff`), and everything else is refused before the disk is
looked at.  What is taken never leads out of the directory: its file and its second file have names
that are names of entries (`Files.IsEntryName`), so reading depends on one entry of the directory
(`Files.get_congr_of_opens`), and setting a text changes two of them and makes the directory, where
it is missing (`Files.set_touches`).
-/

namespace Spreadsheet.Store

open Text.Utf8 (encode)

namespace Path

theorem take_take (p : Path) (made count : Nat) :
    (p.take made).take count = p.take (min count made) := by
  rw [take, take, take, List.take_take]

end Path

namespace Disk

variable {d d' : Disk} {p : Path} {name : String} {above place : Location}

/-- Making a directory adds directories on the way to it and nothing else. -/
theorem node?_of_makeDirectories (p : Path) (d : Disk) (place : Location) :
    (makeDirectories p d).2.node? place = d.node? place ∨
      d.node? place = none ∧ ∃ count, (makeDirectories p d).2.Opens (p.take count) place := by
  refine (makePath_induction (R := fun d d' => Extends d d' ∧ (d'.node? place = d.node? place ∨
    d.node? place = none ∧ ∃ count, d'.Opens (p.take count) place))
    (fun d => ⟨.refl d, .inl rfl⟩) ?_ p.absolute p.names.reverse ?_ d).2
  · rintro d d' d'' ⟨hextends, hnode⟩ ⟨hextends', hnode'⟩
    refine ⟨hextends.trans hextends', ?_⟩
    rcases hnode' with hsame' | ⟨hnone', hopens'⟩
    · rw [hsame']
      exact hnode.imp_right fun ⟨hnone, count, hopens⟩ =>
        ⟨hnone, count, hextends'.keepsDirectories.opens hopens⟩
    · refine .inr ⟨?_, hopens'⟩
      cases hnode : d.node? place with
      | none => rfl
      | some node =>
        rw [hextends.node place node hnode] at hnone'
        cases hnone'
  · -- One directory is made, and the names up to it lead there.
    intro d d' last reversed hsuffix hmade
    have hextends := extends_makeDirectory hmade
    obtain ⟨made, hlocate, hnone, rfl⟩ := makeDirectory_eq_ok hmade
    refine ⟨hextends, ?_⟩
    have hnil := ne_nil_of_node? (ne_directory_of_node? hnone)
    by_cases hplace : place = made
    · subst hplace
      refine .inr ⟨hnone, (last :: reversed).length, ?_, ?_⟩
      · have hprefix : (last :: reversed).reverse <+: p.names := by
          rw [← List.reverse_reverse p.names]
          exact List.reverse_prefix.mpr hsuffix
        have htake :
            p.take (last :: reversed).length = ⟨p.absolute, (last :: reversed).reverse⟩ := by
          rw [Path.take, ← List.length_reverse, ← List.prefix_iff_eq_take.mp hprefix]
        have hlocated := hextends.keepsDirectories.locate hlocate
        rw [htake]
        rw [locate] at hlocated
        split at hlocated
        · cases hlocated
        · exact hlocated
      · rw [d.node?_put hnil, if_pos rfl]
    · rw [d.node?_put hnil, if_neg hplace]
      exact .inl rfl

end Disk

namespace Files

open Disk (Extends KeepsDirectories)

variable {s : Files} {mishap : Option Mishap} {key payload name : String} {d d' : Disk}
  {above place : Location}

/-! ### Keys -/

/-- The letters and digits of ASCII, the underscore, the full stop and the hyphen. -/
def IsNameChar (c : Char) : Prop :=
  ('A' ≤ c ∧ c ≤ 'Z') ∨ ('a' ≤ c ∧ c ≤ 'z') ∨ ('0' ≤ c ∧ c ≤ '9') ∨ c = '_' ∨ c = '.' ∨ c = '-'

instance (c : Char) : Decidable (IsNameChar c) :=
  inferInstanceAs (Decidable (_ ∨ _))

/-- One or more of these characters. -/
def IsName (text : String) : Prop :=
  text.toList ≠ [] ∧ ∀ c ∈ text.toList, IsNameChar c

instance (text : String) : Decidable (IsName text) :=
  @instDecidableAnd _ _ _ (List.decidableBAll _ _)

/-- The keys that are meant: names that are not those of a directory itself and of the one above
it. -/
def IsPlainKey (key : String) : Prop :=
  IsName key ∧ key ≠ "." ∧ key ≠ ".."

instance (key : String) : Decidable (IsPlainKey key) :=
  inferInstanceAs (Decidable (_ ∧ _))

theorem isKeyChar_iff (c : Char) : isKeyChar c = true ↔ IsNameChar c := by
  have hupper : c.isUpper = true ↔ 'A' ≤ c ∧ c ≤ 'Z' := decide_eq_true_iff
  have hlower : c.isLower = true ↔ 'a' ≤ c ∧ c ≤ 'z' :=
    Bool.and_eq_true_iff.trans (and_congr decide_eq_true_iff decide_eq_true_iff)
  have hdigit : c.isDigit = true ↔ '0' ≤ c ∧ c ≤ '9' :=
    Bool.and_eq_true_iff.trans (and_congr decide_eq_true_iff decide_eq_true_iff)
  simp only [isKeyChar, IsNameChar, Bool.or_eq_true, hupper, hlower, hdigit, beq_iff_eq, or_assoc]

theorem not_isNameChar_lineFeed : ¬IsNameChar '\n' := by
  decide

/-- A key that is taken is plain, or a name with a line feed after it. -/
theorem isKey_iff (key : String) :
    IsKey key ↔ IsPlainKey key ∨ ∃ name, IsName name ∧ key = name ++ "\n" := by
  have hall : ∀ cs : List Char, cs.all isKeyChar = true ↔ ∀ c ∈ cs, IsNameChar c := by
    intro cs
    simp only [List.all_eq_true, isKeyChar_iff]
  rw [IsKey, hall]
  by_cases hlast : key.toList.getLast? = some '\n'
  · obtain ⟨front, hfront⟩ := List.getLast?_eq_some_iff.mp hlast
    have hdrop : dropLineFeed key.toList = front := by
      rw [dropLineFeed, if_pos hlast, hfront, List.dropLast_concat]
    have hkey : key = String.ofList front ++ "\n" := by
      rw [← String.toList_inj, String.toList_append, String.toList_ofList, hfront]
      rfl
    rw [hdrop]
    constructor
    · rintro ⟨⟨hne, hchars⟩, -⟩
      refine .inr ⟨String.ofList front, ?_, hkey⟩
      rw [IsName, String.toList_ofList]
      exact ⟨hne, hchars⟩
    · rintro (⟨⟨-, hchars⟩, -⟩ | ⟨name, ⟨hne, hchars⟩, hname⟩)
      · exact absurd (hchars '\n' (List.mem_of_getLast? hlast)) not_isNameChar_lineFeed
      · have hlist : front = name.toList := by
          rw [hname, String.toList_append] at hfront
          exact (List.append_inj_left' hfront rfl).symm
        refine ⟨hlist ▸ ⟨hne, hchars⟩, ?_, ?_⟩
        · rintro rfl
          cases hlast
        · rintro rfl
          cases hlast
  · have hdrop : dropLineFeed key.toList = key.toList := if_neg hlast
    rw [hdrop]
    refine ⟨.inl, ?_⟩
    rintro (hplain | ⟨name, -, rfl⟩)
    · exact hplain
    · rw [String.toList_append, List.getLast?_append] at hlast
      exact absurd rfl hlast

theorem path_eq_ok_iff (s : Files) (key : String) {p : Path} :
    s.path key = .ok p ↔ IsKey key ∧ p = s.pathOf key := by
  rw [path]
  by_cases hkey : IsKey key
  · rw [if_pos hkey, Except.ok.injEq]
    exact ⟨fun h => ⟨hkey, h.symm⟩, fun h => h.2.symm⟩
  · rw [if_neg hkey]
    constructor
    · intro h
      cases h
    · intro h
      exact absurd h.1 hkey

/-- What is no key is refused before the disk is looked at. -/
theorem refused_of_not_isKey (s : Files) (hkey : ¬IsKey key) :
    s.path key = .error (.persistence (.invalidKey key)) ∧
      (∀ d, s.get d key = .error (.persistence (.invalidKey key))) ∧
      ∀ mishap payload d,
        s.set mishap key payload d = (.error (.persistence (.invalidKey key)), d) := by
  have hpath : s.path key = .error (.persistence (.invalidKey key)) := if_neg hkey
  have husable : s.usablePath key = .error (.persistence (.invalidKey key)) := by
    rw [usablePath, hpath]
    rfl
  refine ⟨hpath, fun d => ?_, fun mishap payload d => ?_⟩
  · rw [Files.get, husable]
    rfl
  · rw [Files.set, husable]
    rfl

/-! ### Names of entries -/

/-- The name leads to an entry of a directory, and not further or back. -/
structure IsEntryName (name : String) : Prop where
  nonempty : name ≠ ""
  separator : '/' ∉ name.toList
  nul : '\x00' ∉ name.toList
  itself : name ≠ "."
  parent : name ≠ ".."

/-- The characters of the names of a key's files are those of the key and of two endings. -/
theorem char_of_mem_name (hkey : IsKey key) (hname : name = fileName key ∨ name = draftName key)
    {c : Char} (hc : c ∈ name.toList) : IsNameChar c ∨ c = '\n' ∧ ¬IsPlainKey key := by
  have hending : c ∈ key.toList ∨ c ∈ ".json".toList ∨ c ∈ ".tmp".toList := by
    rcases hname with rfl | rfl
    · rw [fileName, String.toList_append, List.mem_append] at hc
      exact hc.imp_right .inl
    · rw [draftName, fileName, String.toList_append, String.toList_append, List.mem_append,
        List.mem_append, or_assoc] at hc
      exact hc
  have hendings : IsName ".json" ∧ IsName ".tmp" := by decide
  rcases hending with hc | hc | hc
  · rcases (isKey_iff key).mp hkey with hplain | ⟨front, ⟨-, hchars⟩, rfl⟩
    · exact .inl (hplain.1.2 c hc)
    · rw [String.toList_append, List.mem_append] at hc
      rcases hc with hc | hc
      · exact .inl (hchars c hc)
      · refine .inr ⟨List.mem_singleton.mp hc, fun hplain => not_isNameChar_lineFeed ?_⟩
        refine hplain.1.2 '\n' ?_
        rw [String.toList_append]
        exact List.mem_append_right _ List.mem_cons_self
  · exact .inl (hendings.1.2 c hc)
  · exact .inl (hendings.2.2 c hc)

theorem isEntryName_of_isKey (hkey : IsKey key)
    (hname : name = fileName key ∨ name = draftName key) : IsEntryName name := by
  have hother : ∀ c, ¬IsNameChar c → c ≠ '\n' → c ∉ name.toList := fun c hc hfeed hmem =>
    (char_of_mem_name hkey hname hmem).elim hc fun h => hfeed h.1
  have hlast : name.toList.getLast? = some 'n' ∨ name.toList.getLast? = some 'p' := by
    rcases hname with rfl | rfl
    · exact .inl (getLast?_fileName key)
    · exact .inr (getLast?_draftName key)
  refine ⟨?_, hother '/' (by decide) (by decide), hother '\x00' (by decide) (by decide), ?_, ?_⟩
  · rintro rfl
    revert hlast
    decide
  · rintro rfl
    revert hlast
    decide
  · rintro rfl
    revert hlast
    decide

/-! ### What is read and written -/

/-- Reading a key depends on one entry of the directory alone. -/
theorem get_congr_of_opens (hopens : d.Opens s.directory above)
    (hopens' : d'.Opens s.directory above)
    (hnode : d'.node? (above ++ [fileName key]) = d.node? (above ++ [fileName key])) :
    s.get d' key = s.get d key := by
  refine get_congr ?_
  rw [Disk.readBytes, Disk.readBytes, pathOf, hopens.locate_child, hopens'.locate_child]
  split
  · rfl
  · cases henter : Disk.enter above (fileName key) with
    | error e => rfl
    | ok place =>
      rw [Disk.eq_append_of_enter (fileName_ne_parent key) henter]
      simp only [bind, Except.bind]
      rw [hnode]

/-- What is found under a key is in this entry. -/
theorem exists_opens_of_get {text : String} (h : s.get d key = .ok (some text)) :
    ∃ above bytes, d.Opens s.directory above ∧
      d.node? (above ++ [fileName key]) = some (.file bytes) := by
  cases husable : s.usablePath key with
  | error e =>
    rw [Files.get, husable] at h
    cases h
  | ok p =>
    obtain ⟨rfl, -⟩ := usablePath_eq_ok husable
    rw [get_of_usable husable] at h
    split at h
    · cases h
    · cases h
    · next bytes hbytes =>
      obtain ⟨place, hplace, hnode⟩ := Disk.readBytes_eq_ok_iff.mp hbytes
      obtain ⟨above, hopens, henter⟩ := Disk.exists_opens hplace
      rw [Disk.eq_append_of_enter (fileName_ne_parent key) henter] at hnode
      exact ⟨above, bytes, hopens, hnode⟩

/-- A place is as before, or a directory was made there on the way to that of the store, or it is
that of one of the key's two entries. -/
def Touched (s : Files) (key : String) (d d' : Disk) (place : Location) : Prop :=
  d'.node? place = d.node? place ∨
    (d.node? place = none ∧ ∃ count, d'.Opens (s.directory.take count) place) ∨
    ∃ above name, d'.Opens s.directory above ∧ place = above ++ [name] ∧
      (name = fileName key ∨ name = draftName key)

theorem Prepared.touched (h : s.Prepared d d') (key : String) (place : Location) :
    s.Touched key d d' place := by
  obtain ⟨made, rfl⟩ := h
  rcases Disk.node?_of_makeDirectories (s.directory.take made) d place with
    hsame | ⟨hnone, count, hopens⟩
  · exact .inl hsame
  · rw [Path.take_take] at hopens
    exact .inr (.inl ⟨hnone, _, hopens⟩)

/-- A change of one of the two entries touches nothing else. -/
theorem Touched.of_entry {d₁ d₂ : Disk} (h : s.Touched key d d₁ place)
    (hkeeps : KeepsDirectories d₁ d₂) {entry : Location}
    (hname : name = fileName key ∨ name = draftName key)
    (hentry : d₁.locate (s.directory.child name) = .ok entry)
    (hnode : place ≠ entry → d₂.node? place = d₁.node? place) : s.Touched key d d₂ place := by
  by_cases hplace : place = entry
  · obtain ⟨above, hopens, henter⟩ := Disk.exists_opens hentry
    have hne : name ≠ ".." := by
      rcases hname with rfl | rfl
      · exact fileName_ne_parent key
      · exact draftName_ne_parent key
    refine .inr (.inr ⟨above, name, hkeeps.opens hopens, ?_, hname⟩)
    rw [hplace, Disk.eq_append_of_enter hne henter]
  · rcases h with hsame | ⟨hnone, count, hopens⟩ | ⟨above, name, hopens, hchild⟩
    · exact .inl ((hnode hplace).trans hsame)
    · exact .inr (.inl ⟨hnone, count, hkeeps.opens hopens⟩)
    · exact .inr (.inr ⟨above, name, hkeeps.opens hopens, hchild⟩)

theorem Touched.put {d₁ : Disk} {entry : Location} (h : s.Touched key d d₁ place)
    (hname : name = fileName key ∨ name = draftName key)
    (hentry : d₁.locate (s.directory.child name) = .ok entry)
    (hfree : d₁.node? entry ≠ some .directory) (bytes : List UInt8) :
    s.Touched key d (d₁.put entry (.file bytes)) place := by
  refine h.of_entry ((Extends.refl d₁).keepsDirectories.put hfree _) hname hentry fun hne => ?_
  rw [d₁.node?_put (Disk.ne_nil_of_node? hfree), if_neg hne]

theorem Touched.erase {d₁ : Disk} {entry : Location} (h : s.Touched key d d₁ place)
    (hname : name = fileName key ∨ name = draftName key)
    (hentry : d₁.locate (s.directory.child name) = .ok entry)
    (hfree : d₁.node? entry ≠ some .directory) : s.Touched key d (d₁.erase entry) place := by
  refine h.of_entry ((Extends.refl d₁).keepsDirectories.erase hfree) hname hentry fun hne => ?_
  rw [Disk.node?_erase _ (Disk.ne_nil_of_node? hfree), if_neg hne]

/-- Setting a text touches no more than that, whether it succeeds or goes wrong at some point. -/
theorem set_touches (s : Files) (mishap : Option Mishap) (key payload : String) (d : Disk)
    (place : Location) : s.Touched key d (s.set mishap key payload d).2 place := by
  have hresult := result_set s mishap key payload d
  generalize (s.set mishap key payload d).1 = answer at hresult
  generalize (s.set mishap key payload d).2 = left at hresult ⊢
  cases hresult with
  | refused e hprepared => exact hprepared.touched key place
  | @drafted d₁ e hmade draft hdraft hfree bytes =>
    have hprepared : s.Prepared d d₁ := hmade ▸ s.prepared_makeDirectories d
    exact (hprepared.touched key place).put (.inr rfl) hdraft hfree bytes
  | @replaced d₁ _ hmade draft target hdraft hfree htarget hfree' =>
    have hprepared : s.Prepared d d₁ := hmade ▸ s.prepared_makeDirectories d
    have hdrafted := (hprepared.touched key place).put (.inr rfl) hdraft hfree (encode payload)
    have hkept := (Extends.refl d₁).keepsDirectories.put hfree (.file (encode payload))
    have hwritten := Disk.node?_put_file hfree (encode payload)
    -- The second file is taken away before the first one is put in its place.
    have herased := hdrafted.erase (.inr rfl) (hkept.locate hdraft) hwritten
    have hkept' := (Extends.refl _).keepsDirectories.erase hwritten
    refine herased.put (.inl rfl) (hkept'.locate htarget) ?_ (encode payload)
    rw [Disk.node?_erase _ (Disk.ne_nil_of_node? hwritten)]
    split
    · exact nofun
    · exact hfree'

/-- **The keys that are taken, and that nothing else is touched with them.**  A key is taken exactly
if it is plain or a name with a line feed after it; any other key is refused, and no disk is looked
at or changed.  The file of a key is an entry of the directory, and so is its second file: their
names are of plain characters, but for the line feed of a key that is not plain.  Reading depends on
the first of these entries alone, and setting a text changes these two at most, wherever it goes
wrong, once the directory is made. -/
theorem path_confined (s : Files) (key : String) :
    ((∃ p, s.path key = .ok p) ↔ IsPlainKey key ∨ ∃ name, IsName name ∧ key = name ++ "\n") ∧
    (∀ e, s.path key = .error e → e = .persistence (.invalidKey key) ∧
      (∀ d, s.get d key = .error e) ∧
      ∀ mishap payload d, s.set mishap key payload d = (.error e, d)) ∧
    ∀ p, s.path key = .ok p →
      p = s.directory.child (fileName key) ∧
      (∀ name, name = fileName key ∨ name = draftName key →
        IsEntryName name ∧ ∀ c ∈ name.toList, IsNameChar c ∨ c = '\n' ∧ ¬IsPlainKey key) ∧
      (∀ d d' above, d.Opens s.directory above → d'.Opens s.directory above →
        d'.node? (above ++ [fileName key]) = d.node? (above ++ [fileName key]) →
          s.get d' key = s.get d key) ∧
      (∀ d text, s.get d key = .ok (some text) → ∃ above bytes, d.Opens s.directory above ∧
        d.node? (above ++ [fileName key]) = some (.file bytes)) ∧
      ∀ mishap payload d place, s.Touched key d (s.set mishap key payload d).2 place := by
  refine ⟨?_, fun e herror => ?_, fun p hpath => ?_⟩
  · rw [← isKey_iff]
    constructor
    · rintro ⟨p, hpath⟩
      exact ((s.path_eq_ok_iff key).mp hpath).1
    · intro hkey
      exact ⟨_, (s.path_eq_ok_iff key).mpr ⟨hkey, rfl⟩⟩
  · have hkey : ¬IsKey key := by
      intro hkey
      rw [(s.path_eq_ok_iff key).mpr ⟨hkey, rfl⟩] at herror
      cases herror
    obtain ⟨hrefused, hget, hset⟩ := s.refused_of_not_isKey hkey
    rw [hrefused] at herror
    cases herror
    exact ⟨rfl, hget, hset⟩
  · obtain ⟨hkey, hp⟩ := (s.path_eq_ok_iff key).mp hpath
    refine ⟨hp, fun name hname => ?_, fun d d' above hopens hopens' hnode => ?_, fun d text => ?_,
      fun mishap payload d place => ?_⟩
    · exact ⟨isEntryName_of_isKey hkey hname, fun c hc => char_of_mem_name hkey hname hc⟩
    · exact get_congr_of_opens hopens hopens' hnode
    · exact exists_opens_of_get
    · exact s.set_touches mishap key payload d place

/-- Even the name of the directory itself is taken with a line feed after it. -/
example : IsKey ".\n" ∧ ¬IsKey "." := by
  decide

/-- Not only plain keys are taken. -/
theorem path_not_plain :
    ¬∀ (s : Files) (key : String), (∃ p, s.path key = .ok p) ↔ IsPlainKey key := by
  intro h
  have hplain := (h shelf "k\n").mp ⟨_, rfl⟩
  revert hplain
  decide

end Files

end Spreadsheet.Store

import Spreadsheet.Proofs.Operations
import Spreadsheet.Proofs.Store.Encoding
import Spreadsheet.Store.Files

/-!
What a store of files does to a disk.

Making directories leaves everything that was there (`Disk.Extends`), and writing and moving files
leaves directories (`Disk.KeepsDirectories`), so that a path that led to a place goes on to do so.
`Files.Result` is all that setting a text can do, whatever goes wrong on the way
(`Files.result_set`).  The file of a key is touched only at the last step, and no other file of a
key ever (`Files.readBytes_set`): a text that was set is found again (`Files.holds_of_set`,
`Files.Holds.get`), until another one is set under its key (`Files.Holds.set`).
-/

namespace Spreadsheet.Store

open Text.Utf8 (encode decode? decode?_encode decode?_eq_ok_iff)

namespace Disk

/-- Everything that was there is there, and there may be more. -/
structure Extends (d d' : Disk) : Prop where
  working : d'.working = d.working
  node : ∀ place node, d.node? place = some node → d'.node? place = some node

/-- The directories that were there are there. -/
structure KeepsDirectories (d d' : Disk) : Prop where
  working : d'.working = d.working
  directory : ∀ place, d.node? place = some .directory → d'.node? place = some .directory

variable {d d' d'' : Disk}

theorem Extends.refl (d : Disk) : Extends d d :=
  ⟨rfl, fun _ _ h => h⟩

theorem Extends.trans (h : Extends d d') (h' : Extends d' d'') : Extends d d'' :=
  ⟨h'.working.trans h.working, fun place node hnode => h'.node place node (h.node place node hnode)⟩

theorem Extends.keepsDirectories (h : Extends d d') : KeepsDirectories d d' :=
  ⟨h.working, fun place => h.node place .directory⟩

theorem KeepsDirectories.trans (h : KeepsDirectories d d') (h' : KeepsDirectories d' d'') :
    KeepsDirectories d d'' :=
  ⟨h'.working.trans h.working, fun place hplace => h'.directory place (h.directory place hplace)⟩

theorem ne_nil_of_node? {place : Location} (h : d.node? place ≠ some .directory) : place ≠ [] := by
  rintro rfl
  exact h rfl

theorem ne_directory_of_node? {place : Location} (h : d.node? place = none) :
    d.node? place ≠ some .directory := by
  rw [h]
  exact (Option.some_ne_none _).symm

/-- A file that came to a place is no directory. -/
theorem node?_put_file {place : Location} (hfree : d.node? place ≠ some .directory)
    (bytes : List UInt8) : (d.put place (.file bytes)).node? place ≠ some .directory := by
  rw [d.node?_put (ne_nil_of_node? hfree), if_pos rfl]
  exact nofun

/-- What is no directory may be overwritten. -/
theorem KeepsDirectories.put (h : KeepsDirectories d d') {place : Location}
    (hfree : d'.node? place ≠ some .directory) (node : Node) :
    KeepsDirectories d (d'.put place node) := by
  refine ⟨h.working, fun other hother => ?_⟩
  have hother' := h.directory other hother
  rw [d'.node?_put (ne_nil_of_node? hfree), if_neg]
  · exact hother'
  · rintro rfl
    exact hfree hother'

/-- What is no directory may be taken away. -/
theorem KeepsDirectories.erase (h : KeepsDirectories d d') {place : Location}
    (hfree : d'.node? place ≠ some .directory) : KeepsDirectories d (d'.erase place) := by
  refine ⟨h.working, fun other hother => ?_⟩
  have hother' := h.directory other hother
  rw [d'.node?_erase (ne_nil_of_node? hfree), if_neg]
  · exact hother'
  · rintro rfl
    exact hfree hother'

theorem KeepsDirectories.walk (h : KeepsDirectories d d') {names : List String} :
    ∀ {start place : Location}, d.walk start names = .ok place →
      d'.walk start names = .ok place := by
  induction names with
  | nil => exact fun hwalk => hwalk
  | cons name names ih =>
    intro start place hwalk
    rw [Disk.walk] at hwalk ⊢
    split at hwalk
    · cases hwalk
    · cases hwalk
    · next hstart =>
      rw [h.directory start hstart]
      cases henter : enter start name with
      | error e =>
        rw [henter] at hwalk
        cases hwalk
      | ok next =>
        rw [henter] at hwalk
        exact ih hwalk

/-- A path goes on to lead where it led. -/
theorem KeepsDirectories.locate (h : KeepsDirectories d d') {p : Path} {place : Location}
    (hplace : d.locate p = .ok place) : d'.locate p = .ok place := by
  rw [Disk.locate] at hplace ⊢
  split at hplace
  · cases hplace
  · next hlength =>
    rw [if_neg hlength, h.working]
    exact h.walk hplace

/-- Where a path begins. -/
def base (d : Disk) (p : Path) : Location :=
  if p.absolute then [] else d.working

/-- The names of a path lead to a directory at a place. -/
def Opens (d : Disk) (p : Path) (place : Location) : Prop :=
  d.walk (d.base p) p.names = .ok place ∧ d.node? place = some .directory

theorem eq_append_of_enter {above place : Location} {name : String} (hname : name ≠ "..")
    (h : enter above name = .ok place) : place = above ++ [name] := by
  rw [enter, if_neg hname] at h
  split at h
  · cases h
  · cases h
    rfl

theorem walk_append (names names' : List String) :
    ∀ start, d.walk start (names ++ names') =
      (d.walk start names).bind fun place => d.walk place names' := by
  induction names with
  | nil => exact fun _ => rfl
  | cons name names ih =>
    intro start
    rw [List.cons_append, Disk.walk, Disk.walk]
    split
    · rfl
    · rfl
    · cases enter start name with
      | error e => rfl
      | ok next => exact ih next

/-- An entry of a directory is looked up in the directory alone. -/
theorem Opens.locate_child {p : Path} {above : Location} (h : d.Opens p above) (name : String) :
    d.locate (p.child name) =
      if maxPath < (p.child name).toText.utf8ByteSize then .error .nameTooLong
      else enter above name := by
  rw [Disk.locate]
  split
  · rfl
  · show d.walk (d.base p) (p.names ++ [name]) = _
    rw [walk_append, h.1]
    show d.walk above [name] = _
    rw [Disk.walk, h.2]
    cases enter above name with
    | error e => rfl
    | ok place => rfl

/-- Where an entry may be, there is a directory. -/
theorem exists_opens {p : Path} {name : String} {place : Location}
    (h : d.locate (p.child name) = .ok place) :
    ∃ above, d.Opens p above ∧ enter above name = .ok place := by
  rw [Disk.locate] at h
  split at h
  · cases h
  · change d.walk (d.base p) (p.names ++ [name]) = _ at h
    rw [walk_append] at h
    cases habove : d.walk (d.base p) p.names with
    | error e =>
      rw [habove] at h
      cases h
    | ok above =>
      rw [habove] at h
      change d.walk above [name] = _ at h
      rw [Disk.walk] at h
      split at h
      · cases h
      · cases h
      · next hdirectory =>
        refine ⟨above, ⟨habove, hdirectory⟩, ?_⟩
        cases henter : enter above name with
        | error e =>
          rw [henter] at h
          cases h
        | ok next =>
          rw [henter] at h
          exact h

/-- The place of an entry of a directory ends with the name of the entry. -/
theorem locate_child {p : Path} {name : String} (hname : name ≠ "..") {place : Location}
    (h : d.locate (p.child name) = .ok place) : ∃ above, place = above ++ [name] := by
  obtain ⟨above, -, henter⟩ := exists_opens h
  exact ⟨above, eq_append_of_enter hname henter⟩

/-- Entries of different names are at different places. -/
theorem place_ne {p p' : Path} {name name' : String} (hne : name ≠ name') (hname : name ≠ "..")
    (hname' : name' ≠ "..") {place place' : Location} (h : d.locate (p.child name) = .ok place)
    (h' : d'.locate (p'.child name') = .ok place') : place ≠ place' := by
  obtain ⟨above, rfl⟩ := locate_child hname h
  obtain ⟨above', rfl⟩ := locate_child hname' h'
  intro heq
  exact hne (List.cons.inj (List.append_inj_right' heq rfl)).1

theorem KeepsDirectories.opens (h : KeepsDirectories d d') {p : Path} {above : Location}
    (hopens : d.Opens p above) : d'.Opens p above := by
  refine ⟨?_, h.directory above hopens.2⟩
  rw [base, h.working]
  exact h.walk hopens.1

/-- Moving a file leaves all directories. -/
theorem keepsDirectories_move {source target : Location}
    (hsource : d.node? source ≠ some .directory) (hfree : d.node? target ≠ some .directory)
    (node : Node) :
    KeepsDirectories d ((d.erase source).put target node) := by
  refine ((Extends.refl d).keepsDirectories.erase hsource).put ?_ node
  rw [d.node?_erase (ne_nil_of_node? hsource)]
  split
  · exact nofun
  · exact hfree

/-! ### Making directories -/

theorem makeDirectory_eq_ok {p : Path} (h : d.makeDirectory p = .ok d') :
    ∃ place, d.locate p = .ok place ∧ d.node? place = none ∧ d' = d.put place .directory := by
  unfold makeDirectory at h
  cases hplace : d.locate p with
  | error e =>
    rw [hplace] at h
    cases h
  | ok place =>
    rw [hplace] at h
    simp only [bind, Except.bind] at h
    split at h
    · cases h
    · next hnone =>
      cases h
      exact ⟨place, rfl, hnone, rfl⟩

theorem extends_makeDirectory {p : Path} (h : d.makeDirectory p = .ok d') : Extends d d' := by
  obtain ⟨place, -, hnone, rfl⟩ := makeDirectory_eq_ok h
  refine ⟨rfl, fun other node hother => ?_⟩
  rw [d.node?_put (ne_nil_of_node? (ne_directory_of_node? hnone)), if_neg]
  · exact hother
  · rintro rfl
    rw [hnone] at hother
    cases hother

theorem settle_state (p : Path) (e : DiskError) (d : Disk) : (settle p e d).2 = d := by
  unfold settle
  split <;> rfl

/-- What making one directory does, for each directory on the way, is done by making all that are
missing. -/
theorem makePath_induction {R : Disk → Disk → Prop} (hrefl : ∀ d, R d d)
    (htrans : ∀ {d d' d''}, R d d' → R d' d'' → R d d'') (absolute : Bool)
    (reversed : List String)
    (hmake : ∀ {d d' name above}, name :: above <:+ reversed →
      d.makeDirectory ⟨absolute, (name :: above).reverse⟩ = .ok d' → R d d') :
    ∀ d, R d (makePath absolute reversed d).2 := by
  induction reversed with
  | nil =>
    intro d
    rw [makePath, settle_state]
    exact hrefl d
  | cons name above ih =>
    intro d
    rw [makePath]
    dsimp only
    split
    · next hmade => exact hmake (List.suffix_refl _) hmade
    · have habove := ih (fun hsuffix => hmake (hsuffix.trans (List.suffix_cons name above))) d
      rw [Action.bind_apply]
      rcases hrest : makePath absolute above d with ⟨e | _, d'⟩
      · rw [hrest] at habove
        exact habove
      · rw [hrest] at habove
        simp only [Action.bind_apply, Action.state_apply]
        cases hmade : d'.makeDirectory ⟨absolute, (name :: above).reverse⟩ with
        | ok d'' => exact htrans habove (hmake (List.suffix_refl _) hmade)
        | error e =>
          dsimp only
          rw [settle_state]
          exact habove
    · rw [settle_state]
      exact hrefl d

/-- Making a directory and what is missing above it only adds directories. -/
theorem extends_makeDirectories (p : Path) (d : Disk) : Extends d (makeDirectories p d).2 :=
  makePath_induction Extends.refl Extends.trans p.absolute p.names.reverse
    (fun _ hmade => extends_makeDirectory hmade) d

/-! ### Writing and moving files -/

theorem writeBytes_eq_ok {p : Path} {bytes : List UInt8} (h : d.writeBytes p bytes = .ok d') :
    ∃ place, d.locate p = .ok place ∧ d.node? place ≠ some .directory ∧
      d' = d.put place (.file bytes) := by
  unfold writeBytes at h
  cases hplace : d.locate p with
  | error e =>
    rw [hplace] at h
    cases h
  | ok place =>
    rw [hplace] at h
    simp only [bind, Except.bind] at h
    split at h
    · cases h
    · next hfree =>
      cases h
      exact ⟨place, rfl, hfree, rfl⟩

theorem writeBytes_of_locate {p : Path} {place : Location} (hplace : d.locate p = .ok place)
    (hfree : d.node? place ≠ some .directory) (bytes : List UInt8) :
    d.writeBytes p bytes = .ok (d.put place (.file bytes)) := by
  unfold writeBytes
  rw [hplace]
  simp only [bind, Except.bind]

theorem rename_eq_ok {p p' : Path} (h : d.rename p p' = .ok d') :
    ∃ source target node, d.locate p = .ok source ∧ d.locate p' = .ok target ∧
      d.node? source = some node ∧ d.node? target ≠ some .directory ∧
      d' = (d.erase source).put target node := by
  unfold rename at h
  cases hsource : d.locate p with
  | error e =>
    rw [hsource] at h
    cases h
  | ok source =>
    cases htarget : d.locate p' with
    | error e =>
      rw [hsource, htarget] at h
      cases h
    | ok target =>
      rw [hsource, htarget] at h
      simp only [bind, Except.bind] at h
      cases hnode : d.node? source with
      | none =>
        rw [hnode] at h
        cases h
      | some node =>
        rw [hnode] at h
        by_cases hfree : d.node? target = some .directory
        · rw [hfree] at h
          cases h
        · refine ⟨source, target, node, rfl, rfl, hnode, hfree, ?_⟩
          split at h
          · next heq => cases heq
          · next htarget' => exact absurd htarget' hfree
          · next heq _ =>
            cases h
            cases heq
            rfl

/-- Bytes are read where there is a file with these bytes. -/
theorem readBytes_eq_ok_iff {p : Path} {bytes : List UInt8} :
    d.readBytes p = .ok bytes ↔
      ∃ place, d.locate p = .ok place ∧ d.node? place = some (.file bytes) := by
  unfold readBytes
  cases d.locate p with
  | error e => exact ⟨nofun, fun ⟨_, h, _⟩ => by cases h⟩
  | ok place =>
    simp only [bind, Except.bind, Except.ok.injEq, exists_eq_left']
    split
    · next hnone => simp only [hnone, reduceCtorEq]
    · next hdirectory => simp only [hdirectory, reduceCtorEq, Option.some.injEq]
    · next hfile => simp only [hfile, Except.ok.injEq, Option.some.injEq, Node.file.injEq]

/-- An entry of a directory is read as before if nothing else came to its place. -/
theorem KeepsDirectories.readBytes_child (h : KeepsDirectories d d') {p : Path} {above : Location}
    (hopens : d.Opens p above) {name : String}
    (hnode : ∀ place, d.locate (p.child name) = .ok place → d'.node? place = d.node? place) :
    d'.readBytes (p.child name) = d.readBytes (p.child name) := by
  have hlocate : d'.locate (p.child name) = d.locate (p.child name) := by
    rw [hopens.locate_child, (h.opens hopens).locate_child]
  rw [readBytes, readBytes, hlocate]
  cases hplace : d.locate (p.child name) with
  | error e => rfl
  | ok place =>
    simp only [bind, Except.bind]
    rw [hnode place hplace]

end Disk

/-- No carriage return is left. -/
theorem not_mem_foldLineEnds (cs : List Char) : '\r' ∉ foldLineEnds cs := by
  fun_induction foldLineEnds cs with
  | case1 => exact List.not_mem_nil
  | case2 rest ih => exact List.not_mem_cons_of_ne_of_not_mem (by decide) ih
  | case3 rest _ ih => exact List.not_mem_cons_of_ne_of_not_mem (by decide) ih
  | case4 c rest _ hc ih => exact List.not_mem_cons_of_ne_of_not_mem (Ne.symm hc) ih

/-- Exactly the texts without carriage returns are left as they are. -/
theorem foldLineEnds_eq_self_iff {cs : List Char} : foldLineEnds cs = cs ↔ '\r' ∉ cs := by
  constructor
  · intro heq
    rw [← heq]
    exact not_mem_foldLineEnds cs
  · intro hreturn
    fun_induction foldLineEnds cs with
    | case1 => rfl
    | case2 rest ih => exact absurd List.mem_cons_self hreturn
    | case3 rest _ ih => exact absurd List.mem_cons_self hreturn
    | case4 c rest _ _ ih => rw [ih (List.not_mem_of_not_mem_cons hreturn)]

namespace Files

open Disk (Extends KeepsDirectories)

variable {s : Files} {mishap : Option Mishap} {key other payload : String} {d d' : Disk}

/-- The disk after the directory is made, as far as that went. -/
def Prepared (s : Files) (d d' : Disk) : Prop :=
  ∃ made, d' = (Disk.makeDirectories (s.directory.take made) d).2

theorem Prepared.extends (h : s.Prepared d d') : Extends d d' := by
  obtain ⟨made, rfl⟩ := h
  exact Disk.extends_makeDirectories _ d

theorem prepared_refl (s : Files) (d : Disk) : s.Prepared d d :=
  ⟨0, (Disk.settle_state _ _ d).symm⟩

theorem prepared_makeDirectories (s : Files) (d : Disk) :
    s.Prepared d (Disk.makeDirectories s.directory d).2 := by
  refine ⟨s.directory.names.length, ?_⟩
  rw [Path.take, List.take_length]

/-- What setting a text leads to: its answer and the disk that is left.  Either it does not come to
the second file, or it fails after that was written, at least in part, or the second file takes the
place of the key's file. -/
inductive Result (s : Files) (key payload : String) (d : Disk) :
    Except StoreError Unit → Disk → Prop
  | refused {d' : Disk} (e : StoreError) (hprepared : s.Prepared d d') :
      Result s key payload d (.error e) d'
  | drafted {d' : Disk} (e : StoreError) (hmade : d' = (Disk.makeDirectories s.directory d).2)
      {draft : Location} (hdraft : d'.locate (s.draftOf key) = .ok draft)
      (hfree : d'.node? draft ≠ some .directory) (bytes : List UInt8) :
      Result s key payload d (.error e) (d'.put draft (.file bytes))
  | replaced {d' : Disk} (husable : s.usablePath key = .ok (s.pathOf key))
      (hmade : d' = (Disk.makeDirectories s.directory d).2) {draft place : Location}
      (hdraft : d'.locate (s.draftOf key) = .ok draft) (hfree : d'.node? draft ≠ some .directory)
      (hplace : (d'.put draft (.file (encode payload))).locate (s.pathOf key) = .ok place)
      (hfree' : (d'.put draft (.file (encode payload))).node? place ≠ some .directory) :
      Result s key payload d (.ok ())
        (((d'.put draft (.file (encode payload))).erase draft).put place (.file (encode payload)))

theorem usablePath_eq_ok {p : Path} (h : s.usablePath key = .ok p) :
    p = s.pathOf key ∧ IsKey key := by
  unfold usablePath path at h
  by_cases hkey : IsKey key
  · rw [if_pos hkey] at h
    simp only [bind, Except.bind] at h
    split at h
    · cases h
    · cases h
      exact ⟨rfl, hkey⟩
  · rw [if_neg hkey] at h
    cases h

theorem prepare_cases (s : Files) (mishap : Option Mishap) (d : Disk) :
    (∃ e d', s.prepare mishap d = (.error e, d') ∧ s.Prepared d d') ∨
      s.prepare mishap d = (.ok (), (Disk.makeDirectories s.directory d).2) := by
  unfold prepare
  split
  · next made e =>
    rw [Action.bind_apply]
    rcases hmade : Disk.makeDirectories (s.directory.take made) d with ⟨e' | _, d'⟩
    · exact .inl ⟨e', d', rfl, made, (congrArg Prod.snd hmade).symm⟩
    · exact .inl ⟨_, d', rfl, made, (congrArg Prod.snd hmade).symm⟩
  · have hprepared := s.prepared_makeDirectories d
    rcases hmade : Disk.makeDirectories s.directory d with ⟨e | _, d'⟩
    · rw [hmade] at hprepared
      exact .inl ⟨e, d', rfl, hprepared⟩
    · exact .inr rfl

theorem writeDraft_cases (p : Path) (bytes : List UInt8) (mishap : Option Mishap) (d : Disk) :
    (∃ e, writeDraft p bytes mishap d = (.error e, d)) ∨
    ∃ place, d.locate p = .ok place ∧ d.node? place ≠ some .directory ∧
      ((∃ e kept, writeDraft p bytes mishap d = (.error e, d.put place (.file (bytes.take kept)))) ∨
        writeDraft p bytes mishap d = (.ok (), d.put place (.file bytes))) := by
  unfold writeDraft
  cases hwrite : d.writeBytes p bytes with
  | error e => exact .inl ⟨_, rfl⟩
  | ok d' =>
    obtain ⟨place, hplace, hfree, rfl⟩ := Disk.writeBytes_eq_ok hwrite
    rcases mishap with _ | ⟨⟨made, e⟩ | ⟨_ | kept, e⟩ | e⟩
    · exact .inr ⟨place, hplace, hfree, .inr rfl⟩
    · exact .inr ⟨place, hplace, hfree, .inr rfl⟩
    · exact .inl ⟨_, rfl⟩
    · have hkept : d.writeBytes p (bytes.take kept) = .ok (d.put place (.file (bytes.take kept))) :=
        Disk.writeBytes_of_locate hplace hfree _
      refine .inr ⟨place, hplace, hfree, .inl ⟨⟨e, p, none⟩, kept, ?_⟩⟩
      dsimp only
      rw [hkept]
      rfl
    · exact .inr ⟨place, hplace, hfree, .inr rfl⟩

theorem replace_cases (source target : Path) (mishap : Option Mishap) (d : Disk) :
    (∃ e, replace source target mishap d = (.error e, d)) ∨
    ∃ d', d.rename source target = .ok d' ∧ replace source target mishap d = (.ok (), d') := by
  unfold replace
  cases d.rename source target with
  | error e => exact .inl ⟨_, rfl⟩
  | ok d' =>
    rcases mishap with _ | ⟨⟨made, e⟩ | ⟨kept, e⟩ | e⟩
    · exact .inr ⟨d', rfl, rfl⟩
    · exact .inr ⟨d', rfl, rfl⟩
    · exact .inr ⟨d', rfl, rfl⟩
    · exact .inl ⟨_, rfl⟩

/-- All that setting a text can do. -/
theorem result_set (s : Files) (mishap : Option Mishap) (key payload : String) (d : Disk) :
    Result s key payload d (s.set mishap key payload d).1 (s.set mishap key payload d).2 := by
  unfold set
  cases husable : s.usablePath key with
  | error e => exact .refused e (s.prepared_refl d)
  | ok p =>
    obtain ⟨rfl, _⟩ := usablePath_eq_ok husable
    rw [Action.bind_apply, Action.ofExcept_ok]
    simp only [Action.mapError_apply, Action.bind_apply]
    rcases s.prepare_cases mishap d with ⟨e, d₁, hprepare, hprepared⟩ | hprepare
    · rw [hprepare]
      exact .refused _ hprepared
    rw [hprepare]
    simp only
    have hprepared := s.prepared_makeDirectories d
    generalize hmade : (Disk.makeDirectories s.directory d).2 = d₁ at hprepared
    rcases writeDraft_cases (s.draftOf key) (encode payload) mishap d₁ with
      ⟨e, hwrite⟩ | ⟨draft, hdraft, hfree, ⟨e, kept, hwrite⟩ | hwrite⟩
    · rw [hwrite]
      exact .refused _ hprepared
    · rw [hwrite]
      exact .drafted _ hmade.symm hdraft hfree _
    · rw [hwrite]
      simp only
      rcases replace_cases (s.draftOf key) (s.pathOf key) mishap
          (d₁.put draft (.file (encode payload))) with
        ⟨e, hreplace⟩ | ⟨d', hrename, hreplace⟩
      · rw [hreplace]
        exact .drafted _ hmade.symm hdraft hfree _
      · rw [hreplace]
        obtain ⟨source, place, node, hsource, hplace, hnode, hfree', rfl⟩ :=
          Disk.rename_eq_ok hrename
        -- What is moved is what was written.
        have hsource' :
            (d₁.put draft (.file (encode payload))).locate (s.draftOf key) = .ok draft :=
          (KeepsDirectories.put (Extends.refl d₁).keepsDirectories hfree _).locate hdraft
        rw [hsource'] at hsource
        cases hsource
        rw [d₁.node?_put (Disk.ne_nil_of_node? hfree), if_pos rfl] at hnode
        cases hnode
        exact .replaced husable hmade.symm hdraft hfree hplace hfree'

/-- The bytes in the file of a key. -/
def Holds (s : Files) (d : Disk) (key : String) (bytes : List UInt8) : Prop :=
  s.usablePath key = .ok (s.pathOf key) ∧
    ∃ place, d.locate (s.pathOf key) = .ok place ∧ d.node? place = some (.file bytes)

/-- Reading a key is reading its file. -/
theorem get_of_usable {p : Path} (h : s.usablePath key = .ok p) (d : Disk) :
    s.get d key =
      match d.readBytes p with
      | .error .absent => .ok none
      | .error e => .error (.persistence (.readFailed p.toText (DiskFault.message ⟨e, p, none⟩)))
      | .ok bytes =>
        match decode? bytes with
        | .error e => .error (.undecodable e)
        | .ok text => .ok (some (String.ofList (foldLineEnds text.toList))) := by
  unfold Files.get
  rw [h]
  rfl

/-- What is read of a key's file is its text, with its line ends folded. -/
theorem Holds.get {text : String} (h : s.Holds d key (encode text)) :
    s.get d key = .ok (some (String.ofList (foldLineEnds text.toList))) := by
  obtain ⟨husable, hfile⟩ := h
  rw [get_of_usable husable, Disk.readBytes_eq_ok_iff.mpr hfile]
  dsimp only
  rw [decode?_encode]

theorem getLast?_fileName (key : String) : (fileName key).toList.getLast? = some 'n' := by
  rw [fileName, String.toList_append, List.getLast?_append]
  rfl

theorem getLast?_draftName (key : String) : (draftName key).toList.getLast? = some 'p' := by
  rw [draftName, String.toList_append, List.getLast?_append]
  rfl

theorem fileName_ne_parent (key : String) : fileName key ≠ ".." := by
  intro heq
  have hlast := getLast?_fileName key
  rw [heq] at hlast
  revert hlast
  decide

theorem draftName_ne_parent (key : String) : draftName key ≠ ".." := by
  intro heq
  have hlast := getLast?_draftName key
  rw [heq] at hlast
  revert hlast
  decide

/-- No key's second file has the name of a key's file. -/
theorem draftName_ne_fileName (key other : String) : draftName key ≠ fileName other := by
  intro heq
  have hlast := getLast?_draftName key
  rw [heq, getLast?_fileName] at hlast
  cases hlast

/-- The file of another key has another name. -/
theorem fileName_inj (h : fileName key = fileName other) : key = other :=
  String.append_left_inj _ |>.mp h

/-- A text that was set is in the key's file. -/
theorem holds_of_set (h : (s.set mishap key payload d).1 = .ok ()) :
    s.Holds (s.set mishap key payload d).2 key (encode payload) := by
  have hresult := result_set s mishap key payload d
  generalize (s.set mishap key payload d).1 = answer at h hresult
  generalize (s.set mishap key payload d).2 = left at hresult ⊢
  cases hresult with
  | refused e => cases h
  | drafted e => cases h
  | @replaced d' husable _ draft place hdraft hfree hplace hfree' =>
    have hwritten := Disk.node?_put_file hfree (encode payload)
    refine ⟨husable, place, (Disk.keepsDirectories_move hwritten hfree' _).locate hplace, ?_⟩
    rw [Disk.node?_put _ (Disk.ne_nil_of_node? hfree'), if_pos rfl]

/-- Beyond making the directory, setting a text does nothing to the files of other keys, and to that
of its own key only if it succeeds. -/
theorem readBytes_set (s : Files) (mishap : Option Mishap) (key payload : String) (d : Disk) :
    ∃ d₁, s.Prepared d d₁ ∧
      ((s.set mishap key payload d).1 = .ok () →
        d₁ = (Disk.makeDirectories s.directory d).2 ∧ ∃ above, d₁.Opens s.directory above) ∧
      ∀ other, other ≠ key ∨ (s.set mishap key payload d).1 ≠ .ok () →
        (s.set mishap key payload d).2.readBytes (s.pathOf other) =
          d₁.readBytes (s.pathOf other) := by
  have hresult := result_set s mishap key payload d
  generalize (s.set mishap key payload d).1 = answer at hresult ⊢
  generalize (s.set mishap key payload d).2 = left at hresult ⊢
  cases hresult with
  | @refused _ e hprepared => exact ⟨left, hprepared, nofun, fun _ _ => rfl⟩
  | @drafted d₁ e hmade draft hdraft hfree bytes =>
    obtain ⟨above, hopens, -⟩ := Disk.exists_opens hdraft
    refine ⟨d₁, hmade ▸ s.prepared_makeDirectories d, nofun, fun other _ => ?_⟩
    refine ((Extends.refl d₁).keepsDirectories.put hfree _).readBytes_child hopens ?_
    intro own hown
    have hne : own ≠ draft := Disk.place_ne (draftName_ne_fileName key other).symm
      (fileName_ne_parent other) (draftName_ne_parent key) hown hdraft
    rw [d₁.node?_put (Disk.ne_nil_of_node? hfree), if_neg hne]
  | @replaced d₁ _ hmade draft place hdraft hfree hplace hfree' =>
    obtain ⟨above, hopens, -⟩ := Disk.exists_opens hdraft
    refine ⟨d₁, hmade ▸ s.prepared_makeDirectories d, fun _ => ⟨hmade, above, hopens⟩,
      fun other hother => ?_⟩
    -- Two places change, and the names of both are not that of the other key's file.
    have hkey : other ≠ key := hother.resolve_right fun hanswer => hanswer rfl
    have hwritten := Disk.node?_put_file hfree (encode payload)
    have hdrafted := (Extends.refl d₁).keepsDirectories.put hfree (.file (encode payload))
    have hmoved := Disk.keepsDirectories_move hwritten hfree' (.file (encode payload))
    refine (hdrafted.trans hmoved).readBytes_child hopens ?_
    intro own hown
    have hne : own ≠ draft := Disk.place_ne (draftName_ne_fileName key other).symm
      (fileName_ne_parent other) (draftName_ne_parent key) hown hdraft
    have hne' : own ≠ place := Disk.place_ne (fun heq => hkey (fileName_inj heq))
      (fileName_ne_parent other) (fileName_ne_parent key) (hdrafted.locate hown) hplace
    rw [Disk.node?_put _ (Disk.ne_nil_of_node? hfree'), if_neg hne',
      Disk.node?_erase _ (Disk.ne_nil_of_node? hfree), if_neg hne,
      d₁.node?_put (Disk.ne_nil_of_node? hfree), if_neg hne]

theorem holds_iff {bytes : List UInt8} : s.Holds d key bytes ↔
    s.usablePath key = .ok (s.pathOf key) ∧ d.readBytes (s.pathOf key) = .ok bytes := by
  rw [Disk.readBytes_eq_ok_iff]
  exact Iff.rfl

/-- The file of a key keeps its bytes when a text is set under another key, and when setting one
fails. -/
theorem Holds.set {bytes : List UInt8} (h : s.Holds d other bytes)
    (hother : other ≠ key ∨ (s.set mishap key payload d).1 ≠ .ok ()) :
    s.Holds (s.set mishap key payload d).2 other bytes := by
  obtain ⟨husable, own, hown, hnode⟩ := h
  obtain ⟨d₁, hprepared, -, hread⟩ := s.readBytes_set mishap key payload d
  rw [holds_iff, hread other hother, Disk.readBytes_eq_ok_iff]
  have hextends := hprepared.extends
  exact ⟨husable, own, hextends.keepsDirectories.locate hown, hextends.node own _ hnode⟩

end Files

end Spreadsheet.Store

import Spreadsheet.Proofs.Store.Payloads

/-!
What setting a text leaves under the keys of a store of files.

Whatever goes wrong, a text that cannot be set leaves what is read under its own key, and no text
that is set changes what is read under another one.  Two things do change when the directory is made
for a store that had none: a way to it that goes up again may begin to lead somewhere, and a name
that is too long is then refused, where nothing was found before.  `Files.set_isolated` says that
there is nothing else.
-/

namespace Spreadsheet.Store

open Text.Utf8 (encode)

namespace Disk

variable {d : Disk} {p : Path} {name : String} {place : Location}

/-- A tree stays one if something comes to the place of an entry that is no directory. -/
theorem IsTree.put_of_locate (h : d.IsTree) (hname : name ≠ "..")
    (hplace : d.locate (p.child name) = .ok place) (hfree : d.node? place ≠ some .directory)
    (node : Node) : (d.put place node).IsTree := by
  obtain ⟨above, ⟨-, habove⟩, henter⟩ := exists_opens hplace
  rw [eq_append_of_enter hname henter] at hfree ⊢
  exact h.put habove name hfree node

theorem Opens.locate_of_long {above : Location} (h : d.Opens p above) (hname : name ≠ "..")
    (hlong : maxName < name.utf8ByteSize) : d.locate (p.child name) = .error .nameTooLong := by
  rw [h.locate_child, enter, if_neg hname, if_pos hlong, ite_self]

end Disk

namespace Files

open Disk (Extends KeepsDirectories maxName maxPath)

variable {s : Files} {mishap : Option Mishap} {key other payload : String} {d d' : Disk}

/-! ### Accepted keys -/

theorem mem_dropLineFeed {cs : List Char} {c : Char} (hmem : c ∈ cs) (hc : c ≠ '\n') :
    c ∈ dropLineFeed cs := by
  unfold dropLineFeed
  split
  · next hlast =>
    obtain ⟨front, rfl⟩ := List.getLast?_eq_some_iff.mp hlast
    rw [List.dropLast_concat]
    exact (List.mem_append.mp hmem).resolve_right fun hmem => hc (List.mem_singleton.mp hmem)
  · exact hmem

/-- Only the directory can have a name that no file system takes for its characters. -/
theorem hasNul_pathOf (s : Files) (hkey : IsKey key) :
    (s.pathOf key).hasNul = s.directory.hasNul := by
  have hname : (fileName key).toList.contains '\x00' = false := by
    rw [fileName, String.toList_append, List.contains_eq_mem, decide_eq_false_iff_not,
      List.mem_append, not_or]
    refine ⟨fun hmem => ?_, by decide⟩
    have hchar := List.all_eq_true.mp hkey.1.2 _ (mem_dropLineFeed hmem (by decide))
    revert hchar
    decide
  show (s.directory.names ++ [fileName key]).any _ = _
  rw [List.any_append, List.any_cons, hname]
  exact Bool.or_false _

theorem usablePath_of_isKey (s : Files) (hkey : IsKey key) :
    s.usablePath key =
      if s.directory.hasNul then .error .nulInPath else .ok (s.pathOf key) := by
  rw [← s.hasNul_pathOf hkey, usablePath, path, if_pos hkey]
  rfl

/-- A text that cannot be set is reported, unless no file system takes the path of the directory. -/
theorem set_eq_error (hkey : IsKey key) {e : StoreError}
    (h : (s.set mishap key payload d).1 = .error e) :
    (∃ detail, e = .persistence (.writeFailed (s.pathOf key).toText detail)) ∨
      (s.directory.hasNul = true ∧ e = .nulInPath ∧ (s.set mishap key payload d).2 = d) := by
  unfold set at h ⊢
  rw [s.usablePath_of_isKey hkey] at h ⊢
  by_cases hnul : s.directory.hasNul = true
  · rw [if_pos hnul] at h ⊢
    cases h
    exact .inr ⟨hnul, rfl, rfl⟩
  · rw [if_neg hnul, Action.bind_apply, Action.ofExcept_ok] at h
    obtain ⟨fault, rfl⟩ := Action.exists_of_mapError_eq_error h
    exact .inl ⟨_, rfl⟩

/-! ### The disk that is left -/

/-- Setting a text, whether it succeeds or not, leaves a tree. -/
theorem isTree_set (htree : d.IsTree) (s : Files) (mishap : Option Mishap) (key payload : String) :
    (s.set mishap key payload d).2.IsTree := by
  have hresult := result_set s mishap key payload d
  generalize (s.set mishap key payload d).1 = answer at hresult
  generalize (s.set mishap key payload d).2 = left at hresult ⊢
  cases hresult with
  | refused e hprepared =>
    obtain ⟨made, rfl⟩ := hprepared
    exact Disk.isTree_makeDirectories htree _
  | @drafted d₁ e hmade draft hdraft hfree bytes =>
    have htree₁ : d₁.IsTree := hmade ▸ Disk.isTree_makeDirectories htree _
    exact htree₁.put_of_locate (draftName_ne_parent key) hdraft hfree _
  | @replaced d₁ _ hmade draft place hdraft hfree hplace hfree' =>
    have htree₁ : d₁.IsTree := hmade ▸ Disk.isTree_makeDirectories htree _
    have hwritten := Disk.node?_put_file hfree (encode payload)
    have htree₂ := (htree₁.put_of_locate (draftName_ne_parent key) hdraft hfree
      (.file (encode payload))).erase hwritten
    have herased := (Extends.refl _).keepsDirectories.erase hwritten
    refine htree₂.put_of_locate (fileName_ne_parent key) (herased.locate hplace) ?_ _
    rw [Disk.node?_erase _ (Disk.ne_nil_of_node? hwritten)]
    split
    · exact nofun
    · exact hfree'

/-- No second file is left where a text was set. -/
theorem readBytes_draft_of_set (h : (s.set mishap key payload d).1 = .ok ()) :
    (s.set mishap key payload d).2.readBytes (s.draftOf key) = .error .absent := by
  have hresult := result_set s mishap key payload d
  generalize (s.set mishap key payload d).1 = answer at h hresult
  generalize (s.set mishap key payload d).2 = left at hresult ⊢
  cases hresult with
  | refused e => cases h
  | drafted e => cases h
  | @replaced d₁ _ _ draft place hdraft hfree hplace hfree' =>
    have hwritten := Disk.node?_put_file hfree (encode payload)
    have hdrafted := (Extends.refl d₁).keepsDirectories.put hfree (.file (encode payload))
    have hmoved := Disk.keepsDirectories_move hwritten hfree' (.file (encode payload))
    have hne : draft ≠ place := Disk.place_ne (draftName_ne_fileName key key)
      (draftName_ne_parent key) (fileName_ne_parent key) hdraft hplace
    rw [Disk.readBytes, (hdrafted.trans hmoved).locate hdraft]
    simp only [bind, Except.bind]
    rw [Disk.node?_put _ (Disk.ne_nil_of_node? hfree'), if_neg hne,
      Disk.node?_erase _ (Disk.ne_nil_of_node? hwritten), if_pos rfl]

/-! ### What is read -/

/-- The answer for a name that is too long to be looked up. -/
def tooLong (s : Files) (key : String) : StoreError :=
  .persistence (.readFailed (s.pathOf key).toText
    (DiskFault.message ⟨.nameTooLong, s.pathOf key, none⟩))

/-- Making the way to the directory changes what is read only where there was none. -/
theorem get_of_prepared (htree : d.IsTree) (hprepared : s.Prepared d d') (key : String) :
    s.get d' key = s.get d key ∨
    (s.get d key = .ok none ∧ d.isDirectory s.directory = false ∧
      (".." ∈ s.directory.names ∨
      ((∃ name ∈ (s.pathOf key).names, maxName < name.utf8ByteSize) ∧
        s.get d' key = .error (s.tooLong key)))) := by
  obtain ⟨made, rfl⟩ := hprepared
  by_cases habsent : d.readBytes (s.pathOf key) = .error .absent
  · cases husable : s.usablePath key with
    | error e =>
      unfold Files.get
      rw [husable]
      exact .inl rfl
    | ok p =>
      obtain ⟨rfl, _⟩ := usablePath_eq_ok husable
      by_cases hdirectory : d.isDirectory s.directory = true
      · obtain ⟨above, hopens⟩ := Disk.exists_opens_of_isDirectory hdirectory
        obtain ⟨above', hopens'⟩ := hopens.take made
        rw [hopens'.makeDirectories]
        exact .inl rfl
      by_cases hup : ".." ∈ s.directory.names
      · exact .inr ⟨get_eq_none_iff.mpr ⟨husable, habsent⟩, Bool.eq_false_iff.mpr hdirectory,
          .inl hup⟩
      rcases htree.readBytes_makeDirectories_take hup (fileName_ne_parent key) made habsent with
        habsent' | ⟨hlong, hname⟩
      · exact .inl (get_congr (habsent'.trans habsent.symm))
      · refine .inr ⟨get_eq_none_iff.mpr ⟨husable, habsent⟩, Bool.eq_false_iff.mpr hdirectory,
          .inr ⟨hname, ?_⟩⟩
        rw [get_of_usable husable, pathOf, hlong]
        rfl
  · exact .inl (get_congr ((Disk.extends_makeDirectories _ d).readBytes_eq habsent))

/-- **Setting a text is atomic, and isolated from other keys.**  Wherever setting a text under a key
goes wrong, be it at a part of the way to the directory, at a part of the second file or at the last
step, it is reported, and what is read under the key is what was read before.  What is read under
other keys is the same in any case.  Of this there is but one exception: where there was no
directory, so that nothing was found, making one may let something be found on a way that goes up
again, and lets a name be refused that is too long.  When a text is set, it is found, and its second
file is gone.  The disk is a tree as before, and on no disk is the file or the second file of a key
in the place of another key's file, nor the second file in that of its own.  A disk has neither
symbolic nor hard links, which could lead from one of these files to another, and texts are texts of
Unicode scalar values, all of which can be encoded. -/
theorem set_isolated (s : Files) (mishap : Option Mishap) (hkey : IsKey key) (payload : String)
    (htree : d.IsTree) :
    let answer := (s.set mishap key payload d).1
    let left := (s.set mishap key payload d).2
    (∀ e, answer = .error e →
      (∃ detail, e = .persistence (.writeFailed (s.pathOf key).toText detail)) ∨
      (s.directory.hasNul = true ∧ e = .nulInPath ∧ left = d)) ∧
    (∀ other, other ≠ key ∨ answer ≠ .ok () →
      s.get left other = s.get d other ∨
      (s.get d other = .ok none ∧ d.isDirectory s.directory = false ∧
        (".." ∈ s.directory.names ∨
        ((∃ name ∈ (s.pathOf other).names, maxName < name.utf8ByteSize) ∧
          s.get left other = .error (s.tooLong other))))) ∧
    (answer = .ok () →
      s.get left key = .ok (some (String.ofList (foldLineEnds payload.toList))) ∧
      left.readBytes (s.draftOf key) = .error .absent) ∧
    left.IsTree ∧
    ∀ (d d' : Disk) (other : String) (place place' : Location),
      d'.locate (s.pathOf other) = .ok place' →
      d.locate (s.draftOf key) = .ok place ∨
        (other ≠ key ∧ d.locate (s.pathOf key) = .ok place) →
      place ≠ place' := by
  intro answer left
  refine ⟨fun e herror => set_eq_error hkey herror, fun other hother => ?_,
    fun hset => ⟨(holds_of_set hset).get, readBytes_draft_of_set hset⟩,
    isTree_set htree s mishap key payload, ?_⟩
  · obtain ⟨d₁, hprepared, -, hread⟩ := s.readBytes_set mishap key payload d
    rw [get_congr (hread other hother)]
    exact get_of_prepared htree hprepared other
  · rintro d d' other place place' hplace' (hplace | ⟨hother, hplace⟩)
    · exact Disk.place_ne (draftName_ne_fileName key other) (draftName_ne_parent key)
        (fileName_ne_parent other) hplace hplace'
    · exact Disk.place_ne (fun heq => hother (fileName_inj heq).symm) (fileName_ne_parent key)
        (fileName_ne_parent other) hplace hplace'

/-- A disk with a text in the store. -/
def stocked : Disk :=
  (shelf.set none "k" "old" {}).2

/-- The disk is full after one character. -/
def outOfSpace : Option Mishap :=
  some (.write (some 1) (.other 28 "No space left on device"))

/-- The old text is there when the disk is full, and the new one is set when there is room again. -/
theorem set_isolated_outOfSpace :
    let left := (shelf.set outOfSpace "k" "new" stocked).2
    let again := shelf.set none "k" "new" left
    stocked.IsTree ∧ IsKey "k" ∧ left.readBytes (shelf.draftOf "k") = .ok [0x6E] ∧
      (∃ detail, (shelf.set outOfSpace "k" "new" stocked).1 =
        .error (.persistence (.writeFailed "store/k.json" detail))) ∧
      shelf.get left "k" = .ok (some "old") ∧ shelf.get left "j" = .ok none ∧
      again.1 = .ok () ∧ shelf.get again.2 "k" = .ok (some "new") ∧
      again.2.readBytes (shelf.draftOf "k") = .error .absent ∧
      (["store", "k.json.tmp"] : Location) ≠ ["store", "k.json"] := by
  intro left again
  have hkey : IsKey "k" := by decide
  have htree : stocked.IsTree := isTree_set (Disk.isTree_empty []) shelf none "k" "old"
  obtain ⟨hreports, hread, -, htree', hplaces⟩ := set_isolated shelf outOfSpace hkey "new" htree
  -- The directory was there before.
  have hsame : ∀ other, shelf.get left other = shelf.get stocked other := fun other =>
    (hread other (.inr nofun)).resolve_right fun hchanged => Bool.noConfusion hchanged.2.1
  have hreported : ∃ detail, (shelf.set outOfSpace "k" "new" stocked).1 =
      .error (.persistence (.writeFailed "store/k.json" detail)) := by
    obtain ⟨e, herror⟩ : ∃ e, (shelf.set outOfSpace "k" "new" stocked).1 = .error e := ⟨_, rfl⟩
    rcases hreports e herror with ⟨detail, rfl⟩ | ⟨hnul, -⟩
    · exact ⟨detail, herror⟩
    · exact Bool.noConfusion hnul
  have hagain : again.1 = .ok () := rfl
  obtain ⟨hnew, hdraft⟩ := (set_isolated shelf none hkey "new" htree').2.2.1 hagain
  exact ⟨htree, hkey, rfl, hreported, hsame "k", hsame "j", hagain, hnew, hdraft,
    hplaces stocked stocked "k" _ _ rfl (.inl rfl)⟩

/-! ### Names that are too long -/

/-- Where the directory is, a key is refused of which the file has too long a name. -/
theorem get_of_long (hkey : IsKey key) (hnul : s.directory.hasNul = false) {above : Location}
    (hopens : d.Opens s.directory above) (hlong : maxName < (fileName key).utf8ByteSize) :
    s.get d key = .error (s.tooLong key) := by
  have husable : s.usablePath key = .ok (s.pathOf key) := by
    rw [s.usablePath_of_isKey hkey, hnul, if_neg Bool.false_ne_true]
  rw [get_of_usable husable, Disk.readBytes, pathOf,
    hopens.locate_of_long (fileName_ne_parent key) hlong]
  rfl

/-- Setting a text under such a key only makes the directory. -/
theorem set_of_long (hkey : IsKey key) (hnul : s.directory.hasNul = false) {above : Location}
    (hmade : Disk.makeDirectories s.directory d = (.ok (), d'))
    (hopens : d'.Opens s.directory above) (hlong : maxName < (fileName key).utf8ByteSize)
    (payload : String) : ∃ e, s.set none key payload d = (.error e, d') := by
  have hlong' : maxName < (draftName key).utf8ByteSize := by
    rw [draftName, String.utf8ByteSize_append]
    omega
  have hbytes : d'.writeBytes (s.draftOf key) (encode payload) = .error .nameTooLong := by
    unfold Disk.writeBytes draftOf
    rw [hopens.locate_of_long (draftName_ne_parent key) hlong']
    rfl
  have hwrite : writeDraft (s.draftOf key) (encode payload) none d' =
      (.error ⟨.nameTooLong, s.draftOf key, none⟩, d') := by
    unfold writeDraft
    rw [hbytes]
  have hprepare : s.prepare none d = (.ok (), d') := hmade
  unfold set
  rw [s.usablePath_of_isKey hkey, hnul, if_neg Bool.false_ne_true, Action.bind_apply,
    Action.ofExcept_ok]
  dsimp only
  rw [Action.mapError_apply, Action.bind_apply_ok hprepare, Action.bind_apply_error hwrite]
  exact ⟨_, rfl⟩

/-- A key of which the file has a name that is one byte too long. -/
def longKey : String :=
  String.ofList (List.replicate 251 'k')

theorem isKey_longKey : IsKey longKey := by
  have hchars : longKey.toList = List.replicate 251 'k' := String.toList_ofList
  have hne : ∀ key : String, key.toList.length ≠ 251 → longKey ≠ key := by
    intro key hlength heq
    rw [← heq, hchars, List.length_replicate] at hlength
    exact hlength rfl
  rw [IsKey, hchars]
  exact ⟨by decide +kernel, hne "." (by decide), hne ".." (by decide)⟩

/-- Nothing is found under such a key, and after a text could not be set under it, it is refused. -/
theorem get_not_kept :
    ¬∀ (s : Files) (d : Disk) (mishap : Option Mishap) (key payload : String), d.IsTree →
      IsKey key → (s.set mishap key payload d).1 ≠ .ok () →
        s.get (s.set mishap key payload d).2 key = s.get d key := by
  intro h
  have hlong : maxName < (fileName longKey).utf8ByteSize := by decide +kernel
  have hopens : (⟨[(["store"], .directory)], []⟩ : Disk).Opens shelf.directory ["store"] :=
    ⟨rfl, rfl⟩
  obtain ⟨e, hset⟩ := set_of_long (d := {}) isKey_longKey rfl rfl hopens hlong "v"
  have hsame := h shelf {} none longKey "v" (Disk.isTree_empty []) isKey_longKey
    (by rw [hset]; exact nofun)
  have hbefore : shelf.get {} longKey = .ok none := by
    have hlength : (shelf.pathOf longKey).toText.utf8ByteSize ≤ maxPath := by decide +kernel
    refine get_eq_none_iff.mpr ⟨shelf.usablePath_of_isKey isKey_longKey, ?_⟩
    rw [Disk.readBytes, Disk.locate_of_length hlength]
    rfl
  rw [hbefore, hset, get_of_long isKey_longKey rfl hopens hlong] at hsame
  cases hsame

end Files

end Spreadsheet.Store

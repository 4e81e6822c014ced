import Spreadsheet.Proofs.Evaluation
import Spreadsheet.Proofs.Json.Depth
import Spreadsheet.Proofs.Sharing

/-!
How loading fails.

A load answers whether something was stored, or fails.  Its failures are promised to be failures of
persistence, and `Editor.load_reports_iff` says when this is kept, for everything that can be stored
in memory or in a file: the bytes of a file must be those of a text, and no text may nest too deep.
-/

namespace Spreadsheet

open Formula (exists_split_of_mapM_eq_error)
open Json (NestsTooDeep)
open Store (Disk Files Memory StoreError)
open Text.Utf8 (encode decode? decode?_eq_ok_iff)

/-! ### Documents are refused for what they are

A document that was read is never refused for its text. -/

theorem Cell.ofJson_ne_unreadable (row col : Nat) (v : Json) (e : Json.ReadError) :
    Cell.ofJson row col v ≠ .error (.unreadable e) := by
  unfold Cell.ofJson
  split
  · split
    · exact nofun
    · exact nofun
    · exact nofun
  · exact nofun

theorem rowItems_ne_unreadable (row : Nat) (v : Json) (e : Json.ReadError) :
    rowItems row v ≠ .error (.unreadable e) := by
  unfold rowItems
  split
  · exact nofun
  · exact nofun

theorem rowOfJson_ne_unreadable (width row : Nat) (v : Json) (e : Json.ReadError) :
    rowOfJson width row v ≠ .error (.unreadable e) := by
  intro h
  unfold rowOfJson at h
  cases hitems : rowItems row v with
  | error e' =>
    rw [hitems] at h
    cases h
    exact rowItems_ne_unreadable row v e hitems
  | ok items =>
    rw [hitems] at h
    simp only [bind, Except.bind] at h
    split at h
    · cases h
    · obtain ⟨_, item, _, _, _, hitem⟩ := exists_split_of_mapM_eq_error h
      exact Cell.ofJson_ne_unreadable row item.2 item.1 e hitem

theorem Snapshot.ofJson_ne_unreadable (v : Json) (e : Json.ReadError) :
    Snapshot.ofJson v ≠ .error (.unreadable e) := by
  intro h
  unfold Snapshot.ofJson at h
  split at h
  · cases h
  · next first rest =>
    cases hitems : rowItems 0 first with
    | error e' =>
      rw [hitems] at h
      cases h
      exact rowItems_ne_unreadable 0 first e hitems
    | ok items =>
      rw [hitems] at h
      obtain ⟨_, item, _, _, _, hitem⟩ := exists_split_of_mapM_eq_error h
      exact rowOfJson_ne_unreadable items.length item.2 item.1 e hitem
  · cases h

theorem Grid.ofJson_ne_unreadable (v : Json) (e : Json.ReadError) :
    Grid.ofJson v ≠ .error (.unreadable e) := by
  intro h
  unfold Grid.ofJson at h
  cases hsnapshot : Snapshot.ofJson v with
  | error e' =>
    rw [hsnapshot] at h
    cases h
    exact Snapshot.ofJson_ne_unreadable v e hsnapshot
  | ok s =>
    rw [hsnapshot] at h
    simp only [bind, Except.bind] at h
    split at h
    · cases h
    · cases h

theorem Grid.read_eq_unreadable_iff {limit : DepthLimit} {text : String} {e : Json.ReadError} :
    Grid.read limit text = .error (.unreadable e) ↔ Json.read limit.levels text = .error e := by
  unfold Grid.read
  cases Json.read limit.levels text with
  | error e' => simp only [Except.error.injEq, DocumentError.unreadable.injEq]
  | ok v => exact ⟨fun h => absurd h (Grid.ofJson_ne_unreadable v e), nofun⟩

namespace Editor

/-- A load of the session answers, or fails as it is promised to. -/
def ReportsLoad (s : Session) : Prop :=
  ∀ e, (load s).1 = .error e → ∃ failure, e = .store (.persistence failure)

/-- A text is accepted or refused as promised unless it nests too deep. -/
theorem accept_reports_iff (key payload : String) (s : Session) :
    (∀ e, (accept key payload s).1 = .error e → ∃ failure, e = .store (.persistence failure)) ↔
      ¬NestsTooDeep s.host.depthLimit.levels payload := by
  rw [accept_apply]
  constructor
  · rintro h ⟨container, hdeep⟩
    rw [Grid.read_eq_unreadable_iff.mpr hdeep] at h
    obtain ⟨failure, hfailure⟩ := h _ rfl
    cases hfailure
  · intro hdeep e h
    split at h
    · next container hread => exact absurd ⟨container, Grid.read_eq_unreadable_iff.mp hread⟩ hdeep
    · cases h
      exact ⟨_, rfl⟩
    · split at h
      · cases h
      · cases h
        exact ⟨_, rfl⟩

/-- What reading a store may come to if the load is to report. -/
def ReportsRead (depth : Nat) : Except StoreError (Option String) → Prop
  | .error e => ∃ failure, e = .persistence failure
  | .ok payload => ¬NestsTooDeep depth (payload.getD "")

theorem not_nestsTooDeep_empty (depth : Nat) : ¬NestsTooDeep depth "" := by
  intro h
  exact Nat.not_lt_zero depth h.lt_openings

/-- A load reports if reading the store does, and what is read does not nest too deep. -/
theorem reportsLoad_iff (s : Session) :
    ReportsLoad s ↔
      ReportsRead s.host.depthLimit.levels (Store.get s.editor.storageKey s.host.store).1 := by
  unfold ReportsLoad
  rw [load_apply]
  dsimp only
  rw [Host.get_apply]
  cases (Store.get s.editor.storageKey s.host.store).1 with
  | error e =>
    constructor
    · intro h
      obtain ⟨failure, hfailure⟩ := h _ rfl
      exact ⟨failure, Fault.store.inj hfailure⟩
    · rintro ⟨failure, rfl⟩ e h
      cases h
      exact ⟨failure, rfl⟩
  | ok payload =>
    dsimp only [ReportsRead]
    split
    · next hempty =>
      rw [hempty]
      exact ⟨fun _ => not_nestsTooDeep_empty _, fun _ => nofun⟩
    · rw [← accept_reports_iff s.editor.storageKey (payload.getD "")
        { s with host := { s.host with store := (Store.get s.editor.storageKey s.host.store).2 } }]
      rcases accept s.editor.storageKey (payload.getD "") _ with ⟨e | _, u⟩
      · simp only [Except.error.injEq]
      · exact ⟨fun _ => nofun, fun _ => nofun⟩

/-- Reading a key's file reports if its bytes are those of a text that does not nest too deep. -/
theorem reportsRead_usable_iff {files : Files} {key : String} {p : Store.Path}
    (h : files.usablePath key = .ok p) (disk : Disk) (depth : Nat) :
    ReportsRead depth (files.get disk key) ↔
      ∀ bytes, disk.readBytes p = .ok bytes →
        ∃ text, encode text = bytes ∧
          ¬NestsTooDeep depth (String.ofList (Store.foldLineEnds text.toList)) := by
  rw [Files.get_of_usable h]
  split
  · next hread =>
    rw [hread]
    exact ⟨fun _ => nofun, fun _ => not_nestsTooDeep_empty depth⟩
  · next hread =>
    rw [hread]
    exact ⟨fun _ => nofun, fun _ => ⟨_, rfl⟩⟩
  · next bytes hread =>
    simp only [hread, Except.ok.injEq, forall_eq']
    split
    · next hdecode =>
      constructor
      · rintro ⟨failure, hfailure⟩
        cases hfailure
      · rintro ⟨text, hencode, _⟩
        rw [(decode?_eq_ok_iff bytes text).mpr hencode] at hdecode
        cases hdecode
    · next text hdecode =>
      constructor
      · exact fun h => ⟨text, (decode?_eq_ok_iff bytes text).mp hdecode, h⟩
      · rintro ⟨text', hencode, h⟩
        rw [(decode?_eq_ok_iff bytes text').mpr hencode] at hdecode
        cases hdecode
        exact h

/-- What is no key is reported, and a path that cannot be used is not. -/
theorem reportsRead_files_iff (files : Files) (disk : Disk) (key : String) (depth : Nat) :
    ReportsRead depth (files.get disk key) ↔
      ∀ p, files.path key = .ok p → p.hasNul = false ∧
        ∀ bytes, disk.readBytes p = .ok bytes →
          ∃ text, encode text = bytes ∧
            ¬NestsTooDeep depth (String.ofList (Store.foldLineEnds text.toList)) := by
  cases hpath : files.path key with
  | error e =>
    have hget : files.get disk key = .error e := by
      unfold Files.get Files.usablePath
      rw [hpath]
      rfl
    have hinvalid : ∃ failure, e = .persistence failure := by
      unfold Files.path at hpath
      split at hpath
      · cases hpath
      · cases hpath
        exact ⟨_, rfl⟩
    rw [hget]
    exact ⟨fun _ => nofun, fun _ => hinvalid⟩
  | ok p =>
    simp only [Except.ok.injEq, forall_eq']
    have husable : files.usablePath key = if p.hasNul then .error .nulInPath else .ok p := by
      unfold Files.usablePath
      rw [hpath]
      rfl
    cases hnul : p.hasNul with
    | true =>
      rw [hnul, if_pos rfl] at husable
      have hget : files.get disk key = .error .nulInPath := by
        unfold Files.get
        rw [husable]
        rfl
      rw [hget]
      constructor
      · rintro ⟨failure, hfailure⟩
        cases hfailure
      · rintro ⟨hfalse, _⟩
        cases hfalse
    | false =>
      rw [hnul, if_neg Bool.false_ne_true] at husable
      rw [reportsRead_usable_iff husable]
      exact ⟨fun h => ⟨rfl, h⟩, fun h => h.2⟩

/-- **When loads report.**  Whatever the editor, whatever is stored and however deep the system lets
a text nest, a load answers or fails with a failure of persistence, except for two defects.  Bytes
of a file that no text has are not reported so, like a path that no file system takes, and neither
is a text that nests too deep.  Such a text has more opening brackets than there may be levels, and
so many of them at its front are enough. -/
theorem load_reports_iff (e : Editor) (log : List Record) (limit : DepthLimit) :
    (∀ m : Memory, ReportsLoad ⟨e, ⟨.memory m, log, limit⟩⟩ ↔
      ∀ text, m.get e.storageKey = some text → ¬NestsTooDeep limit.levels text) ∧
    (∀ (files : Files) (disk : Disk), ReportsLoad ⟨e, ⟨.files files disk, log, limit⟩⟩ ↔
      ∀ p, files.path e.storageKey = .ok p → p.hasNul = false ∧
        ∀ bytes, disk.readBytes p = .ok bytes →
          ∃ text, encode text = bytes ∧
            ¬NestsTooDeep limit.levels (String.ofList (Store.foldLineEnds text.toList))) ∧
    ∀ text : String,
      (NestsTooDeep limit.levels text → limit.levels < Json.openings text.toList) ∧
      (List.replicate (limit.levels + 1) '[' <+: text.toList →
        NestsTooDeep limit.levels text) := by
  refine ⟨fun m => ?_, fun files disk => ?_, fun text => ⟨?_, ?_⟩⟩
  · rw [reportsLoad_iff]
    show ¬NestsTooDeep limit.levels ((m.get e.storageKey).getD "") ↔ _
    cases m.get e.storageKey with
    | none => exact ⟨fun _ => nofun, fun _ => not_nestsTooDeep_empty _⟩
    | some text => simp only [Option.getD_some, Option.some.injEq, forall_eq']
  · rw [reportsLoad_iff]
    exact reportsRead_files_iff files disk e.storageKey limit.levels
  · exact NestsTooDeep.lt_openings
  · exact Json.nestsTooDeep_of_openings

/-- A store in memory that holds a text, on a system that reads a thousand levels. -/
def hostOf (text : String) : Host where
  store := .memory ⟨[("spreadsheet", text)]⟩
  depthLimit := ⟨1000, by decide⟩

/-- Brackets alone are not reported. -/
theorem load_reports_iff_nested :
    ¬ReportsLoad ⟨small, hostOf (String.ofList (List.replicate 50000 '['))⟩ := by
  have hfront : List.replicate 1001 '[' <+:
      (String.ofList (List.replicate (1001 + 48999) '[')).toList := by
    rw [String.toList_ofList]
    exact ⟨List.replicate 48999 '[', List.replicate_append_replicate⟩
  rw [show 1001 + 48999 = 50000 from rfl] at hfront
  -- The text is left general, so that nothing evaluates it.
  generalize String.ofList (List.replicate 50000 '[') = text at hfront ⊢
  obtain ⟨hmemory, _, htext⟩ := load_reports_iff small [] ⟨1000, by decide⟩
  intro h
  exact (hmemory ⟨[("spreadsheet", text)]⟩).mp h text rfl ((htext text).2 hfront)

/-- A store of files whose one file holds a byte that no text has. -/
def damagedHost : Host where
  store := .files ⟨⟨false, ["store"]⟩⟩
    { nodes := [(["store"], .directory), (["store", "spreadsheet.json"], .file [0xFF])] }
  depthLimit := .least

/-- The byte is not reported. -/
theorem load_not_reported :
    (load ⟨small, damagedHost⟩).1 = .error (.store (.undecodable ⟨0, 0xFF, 1, .startByte⟩)) ∧
      ¬ReportsLoad ⟨small, damagedHost⟩ := by
  have hload : (load ⟨small, damagedHost⟩).1 =
      .error (.store (.undecodable ⟨0, 0xFF, 1, .startByte⟩)) := rfl
  refine ⟨hload, fun h => ?_⟩
  obtain ⟨failure, hfailure⟩ := h _ hload
  cases hfailure

end Editor

end Spreadsheet

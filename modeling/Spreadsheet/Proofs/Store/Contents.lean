import Spreadsheet.Proofs.Json.Plain
import Spreadsheet.Proofs.Store.Files
import Spreadsheet.Proofs.Store.Sheets
import Spreadsheet.Store

/-!
What all stores have in common.

`Store.contents` is what is kept, without the memory of calls.  Reading changes nothing of it and
depends on nothing else (`Store.contents_get`, `Store.get_eq_of_contents`).  A text of plain
characters that was set is found under its key (`Store.holds_of_set`) until another one is set there
(`Store.Holds.set`): in memory, in files, and in worksheets of a service that answers.
-/

namespace Spreadsheet.Store

open Text.Utf8 (encode decode?_eq_ok_iff)

namespace Files

/-- Only a file with the bytes of a text is read as one. -/
theorem holds_of_get {s : Files} {d : Disk} {key text : String}
    (h : s.get d key = .ok (some text)) :
    ∃ written, s.Holds d key (encode written) ∧
      text = String.ofList (foldLineEnds written.toList) := by
  cases husable : s.usablePath key with
  | error e =>
    unfold Files.get at h
    rw [husable] at h
    cases h
  | ok p =>
    obtain ⟨rfl, _⟩ := usablePath_eq_ok husable
    rw [get_of_usable husable] at h
    split at h
    · cases h
    · cases h
    · next bytes hread =>
      split at h
      · cases h
      · next written hdecode =>
        cases h
        refine ⟨written, ⟨husable, ?_⟩, rfl⟩
        rw [(decode?_eq_ok_iff bytes written).mp hdecode]
        exact Disk.readBytes_eq_ok_iff.mp hread

end Files

/-- Plain characters are no line ends. -/
theorem foldLineEnds_of_allPlain {cs : List Char} (h : Json.AllPlain cs) :
    foldLineEnds cs = cs := by
  rw [foldLineEnds_eq_self_iff]
  intro hreturn
  exact absurd (h '\r' hreturn) (by decide)

/-- What a store keeps, without the calls that a service remembers. -/
def contents : Store → Store
  | .sheets s service => .sheets s { service with calls := [] }
  | store => store

/-- Nothing goes wrong outside: a service has the book and answers all calls. -/
def IsReliable : Store → Prop
  | .sheets s service => s.book < service.books.length ∧ service.Answers
  | _ => True

/-- The text is what is read under the key. -/
def Holds (store : Store) (key text : String) : Prop :=
  (get key store).1 = .ok (some text)

variable {store store' : Store} {key other payload text : String}

theorem get_sheets (s : Sheets) (service : Service) (key : String) :
    get key (.sheets s service) = ((s.get key service).1, .sheets s (s.get key service).2) :=
  rfl

theorem set_sheets (s : Sheets) (service : Service) (key payload : String) :
    Store.set key payload (.sheets s service) =
      ((s.set key payload service).1.map fun _ => [], .sheets s (s.set key payload service).2) :=
  rfl

/-- Reading changes nothing of what is kept. -/
theorem contents_get (key : String) (store : Store) :
    (get key store).2.contents = store.contents := by
  cases store with
  | memory m => rfl
  | files s disk => rfl
  | sheets s service =>
    obtain ⟨calls, hcalls⟩ := s.exists_get_snd key service
    rw [get_sheets, hcalls]
    rfl

/-- What is read depends on what is kept alone. -/
theorem get_eq_of_contents (h : store.contents = store'.contents) (key : String) :
    (get key store).1 = (get key store').1 := by
  have hcontents : ∀ store : Store, (get key store.contents).1 = (get key store).1 := by
    intro store
    cases store with
    | memory m => rfl
    | files s disk => rfl
    | sheets s service => exact s.get_calls key service []
  rw [← hcontents store, h, hcontents]

theorem isReliable_contents (store : Store) : store.contents.IsReliable ↔ store.IsReliable := by
  cases store with
  | memory m => exact Iff.rfl
  | files s disk => exact Iff.rfl
  | sheets s service => exact Iff.rfl

theorem IsReliable.of_contents (hstore : store.IsReliable) (h : store.contents = store'.contents) :
    store'.IsReliable := by
  rw [← isReliable_contents, ← h, isReliable_contents]
  exact hstore

theorem Holds.of_contents (hholds : store.Holds key text) (h : store.contents = store'.contents) :
    store'.Holds key text := by
  rw [Holds, ← get_eq_of_contents h]
  exact hholds

/-- Setting a text does not make a store less reliable. -/
theorem IsReliable.set (hstore : store.IsReliable) (key payload : String) :
    (Store.set key payload store).2.IsReliable := by
  cases store with
  | memory m => exact hstore
  | files s disk => exact hstore
  | sheets s service =>
    rcases s.set_of_answers key payload hstore.2 hstore.1 with ⟨e, hset⟩ | ⟨t, hset, hsets⟩
    · rw [set_sheets, hset]
      exact hstore
    · rw [set_sheets, hset]
      refine ⟨?_, fun m => ?_⟩
      · rw [hsets.length]
        exact hstore.1
      · rw [hsets.failures]
        exact hstore.2 m

/-- A text that was set is found. -/
theorem holds_of_set (hstore : store.IsReliable) (hplain : Json.AllPlain payload.toList)
    (hne : payload ≠ "") {records : List Record}
    (h : (Store.set key payload store).1 = .ok records) :
    (Store.set key payload store).2.Holds key payload := by
  cases store with
  | memory m =>
    show Except.ok ((m.set key payload).get key) = _
    rw [Memory.get_set, if_pos rfl]
  | files s disk =>
    have hset : (s.set none key payload disk).1 = .ok () := by
      change (s.set none key payload disk).1.map _ = _ at h
      cases hanswer : (s.set none key payload disk).1 with
      | error e =>
        rw [hanswer] at h
        cases h
      | ok _ => rfl
    show s.get (s.set none key payload disk).2 key = _
    rw [(Files.holds_of_set hset).get, foldLineEnds_of_allPlain hplain, String.ofList_toList]
  | sheets s service =>
    rcases s.set_of_answers key payload hstore.2 hstore.1 with ⟨e, hset⟩ | ⟨t, hset, hsets⟩
    · rw [set_sheets, hset] at h
      cases h
    · have hanswers : t.Answers := fun m => by
        rw [hsets.failures]
        exact hstore.2 m
      rw [set_sheets, hset, Holds, get_sheets, s.get_of_answers key hanswers, hsets.lookup,
        if_pos (beq_self_eq_true key)]
      show Except.ok (Sheets.nonempty (some payload)) = _
      rw [Sheets.nonempty]
      exact fun hempty => hne (Option.some.inj hempty)

/-- A text is found until another one is set under its key. -/
theorem Holds.set (hholds : store.Holds other text) (hstore : store.IsReliable)
    (hother : other ≠ key ∨ ∀ records, (Store.set key payload store).1 ≠ .ok records) :
    (Store.set key payload store).2.Holds other text := by
  cases store with
  | memory m =>
    have hkey : other ≠ key := hother.resolve_right fun hfails => hfails [] rfl
    show Except.ok ((m.set key payload).get other) = _
    rw [Memory.get_set, if_neg hkey]
    exact hholds
  | files s disk =>
    obtain ⟨written, hwritten, rfl⟩ := Files.holds_of_get hholds
    refine (hwritten.set (hother.imp_right fun hfails hset => ?_)).get
    refine hfails [s.setRecord key payload] ?_
    show (s.set none key payload disk).1.map _ = _
    rw [hset]
    rfl
  | sheets s service =>
    rcases s.set_of_answers key payload hstore.2 hstore.1 with ⟨e, hset⟩ | ⟨t, hset, hsets⟩
    · rw [set_sheets, hset]
      exact hholds
    · have hkey : other ≠ key := by
        refine hother.resolve_right fun hfails => hfails [] ?_
        rw [set_sheets, hset]
        rfl
      have hanswers : t.Answers := fun m => by
        rw [hsets.failures]
        exact hstore.2 m
      rw [set_sheets, hset, Holds, get_sheets, s.get_of_answers other hanswers, hsets.lookup,
        if_neg (mt beq_iff_eq.mp hkey), ← s.get_of_answers other hstore.2]
      exact hholds

end Spreadsheet.Store

import Spreadsheet.Proofs.Recalculation
import Spreadsheet.Proofs.Store.Contents

/-!
Editors that share a store.

A `Team` is any number of editors with one store, and a `Turn` is an operation of one of them.
`Team.saves` lists what was saved on the way, the last save first.  `Team.reflects_run` says that
the store reflects this list at all times: what is read under a key is the grid that was last saved
under it.  `Team.load_after_saves` is what loading makes of that.
-/

namespace Spreadsheet

open Store (StoreError)

namespace Host

theorem get_apply (key : String) (h : Host) :
    get key h = ((Store.get key h.store).1, { h with store := (Store.get key h.store).2 }) :=
  rfl

theorem set_apply (key payload : String) (h : Host) :
    set key payload h =
      let t : Host := { h with store := (Store.set key payload h.store).2 }
      match (Store.set key payload h.store).1 with
      | .ok records => (.ok (), { t with log := records.reverse ++ t.log })
      | .error e => (.error e, t) := by
  unfold set onStore
  rw [Action.bind_apply, Action.onPart_apply]
  cases (Store.set key payload h.store).1 with
  | error e => rfl
  | ok records => rfl

/-- Setting a text changes the store as the store does, whatever is logged of it. -/
theorem store_set (key payload : String) (h : Host) :
    (set key payload h).2.store = (Store.set key payload h.store).2 := by
  rw [set_apply]
  cases (Store.set key payload h.store).1 with
  | error e => rfl
  | ok records => rfl

theorem set_eq_ok_iff (key payload : String) (h : Host) :
    (set key payload h).1 = .ok () ↔
      ∃ records, (Store.set key payload h.store).1 = .ok records := by
  rw [set_apply]
  cases (Store.set key payload h.store).1 with
  | error e => exact ⟨nofun, nofun⟩
  | ok records => exact ⟨fun _ => ⟨records, rfl⟩, fun _ => rfl⟩

end Host

namespace Editor

/-! ### What operations do to the store -/

theorem host_selectCell (row col : Int) (s : Session) :
    (selectCell row col s).2.host = s.host := by
  rw [selectCell_apply]
  split
  · rfl
  · rfl

theorem host_startDrag (row col : Int) (s : Session) :
    (startDrag row col s).2.host = s.host := by
  rw [startDrag_apply]
  split
  · rfl
  · rfl

theorem host_extendDrag (row col : Int) (s : Session) :
    (extendDrag row col s).2.host = s.host := by
  rw [extendDrag_apply]
  split
  · rfl
  · rfl

theorem host_write (row col : Int) (c : Cell) (s : Session) :
    (write row col c s).2.host = s.host := by
  rw [write_apply]
  split
  · rfl
  · rfl

theorem store_cellOf (text : String) (s : Session) :
    (cellOf text s).2.host.store = s.host.store := by
  rw [cellOf_apply]
  split
  · split
    · rfl
    · rfl
  · rfl

theorem store_apply (s : Session) : (Editor.apply s).2.host.store = s.host.store := by
  rw [apply_apply]
  split
  · rfl
  · next target _ =>
    have hstore := store_cellOf s.editor.bar s
    rcases hcell : cellOf s.editor.bar s with ⟨e | c, t⟩
    · rw [hcell] at hstore
      exact hstore
    · rw [hcell] at hstore
      have hhost := host_write target.row target.col c t
      dsimp only
      rcases hwrite : write target.row target.col c t with ⟨e | c, u⟩
      · rw [hwrite] at hhost
        exact (congrArg Host.store hhost).trans hstore
      · rw [hwrite] at hhost
        exact (congrArg Host.store hhost).trans hstore

theorem store_recalculate (s : Session) : (recalculate s).2.host.store = s.host.store := by
  rw [recalculate_apply]
  rcases s.editor.sweep with ⟨e | _, w⟩
  · rfl
  · dsimp only
    split
    · rfl
    · rfl

theorem store_undo (s : Session) : (undo s).2.host.store = s.host.store := by
  rw [undo_apply]
  split
  · rfl
  · dsimp only
    split
    · rfl
    · rfl

theorem store_redo (s : Session) : (redo s).2.host.store = s.host.store := by
  rw [redo_apply]
  split
  · rfl
  · dsimp only
    split
    · rfl
    · rfl

/-- A load reads the store and leaves it as reading does, whether it takes what it reads or not. -/
theorem store_load (s : Session) :
    (load s).2.host.store = (Store.get s.editor.storageKey s.host.store).2 := by
  rw [load_apply]
  dsimp only
  rw [Host.get_apply]
  cases (Store.get s.editor.storageKey s.host.store).1 with
  | error e => rfl
  | ok payload =>
    dsimp only
    split
    · rfl
    · rcases accept_cases s.editor.storageKey (payload.getD "")
        { s with host := { s.host with store := (Store.get s.editor.storageKey s.host.store).2 } }
        with ⟨e, haccept⟩ | ⟨loaded, _, _, haccept⟩
      · rw [haccept]
      · rw [haccept]
        rfl

theorem store_save (s : Session) :
    (save s).2.host.store =
      (Store.set s.editor.storageKey (s.editor.grid.write {}) s.host.store).2 := by
  rw [← Host.store_set, save_apply]
  rcases Host.set s.editor.storageKey (s.editor.grid.write {}) s.host with ⟨e | _, host⟩
  · rfl
  · rfl

/-- A save returns exactly if the store takes the text. -/
theorem save_eq_ok_iff (s : Session) :
    (save s).1 = .ok () ↔
      ∃ records, (Store.set s.editor.storageKey (s.editor.grid.write {}) s.host.store).1
        = .ok records := by
  rw [← Host.set_eq_ok_iff, save_apply]
  rcases Host.set s.editor.storageKey (s.editor.grid.write {}) s.host with ⟨e | _, host⟩
  · exact ⟨nofun, nofun⟩
  · exact ⟨fun _ => rfl, fun _ => rfl⟩

/-! ### Loading what the store holds -/

variable {s : Session} {g : Grid}

theorem host_get_of_holds (h : s.host.store.Holds s.editor.storageKey (g.write {})) :
    ∃ host, Host.get s.editor.storageKey s.host = (.ok (some (g.write {})), host) := by
  rw [Host.get_apply, show (Store.get s.editor.storageKey s.host.store).1 = _ from h]
  exact ⟨_, rfl⟩

/-- A grid of the editor's size takes the place of the present one, and another one is refused. -/
theorem load_of_holds (h : s.host.store.Holds s.editor.storageKey (g.write {})) :
    ∃ left : Session,
      if g.rows = s.editor.grid.rows ∧ g.cols = s.editor.grid.cols then
        load s = (.ok true, left) ∧ left.editor = { s.editor with grid := g }
      else
        load s = (.error (.store (.persistence (.otherSize s.editor.storageKey g.rows g.cols
          s.editor.grid.rows s.editor.grid.cols))), left) ∧ left.editor = s.editor := by
  obtain ⟨host, hget⟩ := host_get_of_holds h
  split
  · next hsize =>
    obtain ⟨records, hload⟩ := load_of_written hget hsize.1 hsize.2
    exact ⟨_, hload, rfl⟩
  · next hsize =>
    refine ⟨{ s with host := host }, ?_, rfl⟩
    simp only [load_apply, hget, Option.getD_some, if_neg g.write_ne_empty, accept_apply,
      g.read_write_default, if_neg hsize]

end Editor

/-- What a store keeps changes through saves alone. -/
theorem Operation.contents_perform {operation : Operation} (h : operation ≠ .save) (s : Session) :
    (operation.perform s).2.host.store.contents = s.host.store.contents := by
  cases operation with
  | selectCell row col =>
    rw [perform, Action.bind_pure_snd, Editor.host_selectCell]
  | startDrag row col =>
    rw [perform, Action.bind_pure_snd, Editor.host_startDrag]
  | extendDrag row col =>
    rw [perform, Action.bind_pure_snd, Editor.host_extendDrag]
  | endDrag => rfl
  | resumeDrag => rfl
  | setLiteral row col text =>
    rw [perform, Action.bind_pure_snd, Editor.setLiteral, Editor.host_write]
  | setBar text => rfl
  | apply =>
    rw [perform, Action.bind_pure_snd, Editor.store_apply]
  | recalculate =>
    rw [perform, Action.bind_pure_snd, Editor.store_recalculate]
  | undo =>
    rw [perform, Action.bind_pure_snd, Editor.store_undo]
  | redo =>
    rw [perform, Action.bind_pure_snd, Editor.store_redo]
  | save => exact absurd rfl h
  | load =>
    rw [perform, Action.bind_pure_snd, Editor.store_load, Store.contents_get]

/-- What is read under a key is the text of the grid that comes first in the list with this key. -/
def Store.Reflects (store : Store) (saves : List (String × Grid)) : Prop :=
  ∀ key g, saves.lookup key = some g → store.Holds key (g.write {})

/-- The grid of an editor that saves, with its key. -/
def Session.saved? (s : Session) : Operation → Option (String × Grid)
  | .save =>
    match (Editor.save s).1 with
    | .ok _ => some (s.editor.storageKey, s.editor.grid)
    | .error _ => none
  | _ => none

namespace Session

theorem saved?_save_eq_some {s : Session} {entry : String × Grid}
    (h : s.saved? .save = some entry) :
    (Editor.save s).1 = .ok () ∧ entry = (s.editor.storageKey, s.editor.grid) := by
  unfold saved? at h
  cases hsave : (Editor.save s).1 with
  | error e =>
    rw [hsave] at h
    cases h
  | ok _ =>
    rw [hsave] at h
    cases h
    exact ⟨rfl, rfl⟩

theorem saved?_save_eq_none {s : Session} (h : s.saved? .save = none) :
    (Editor.save s).1 ≠ .ok () := by
  intro hsave
  unfold saved? at h
  rw [hsave] at h
  cases h

theorem saved?_of_ne_save (s : Session) {operation : Operation} (h : operation ≠ .save) :
    s.saved? operation = none := by
  cases operation
  case save => exact absurd rfl h
  all_goals rfl

variable {s : Session} {saves : List (String × Grid)}

theorem isReliable_perform (hstore : s.host.store.IsReliable) (operation : Operation) :
    (operation.perform s).2.host.store.IsReliable := by
  by_cases hsave : operation = .save
  · rw [hsave, Operation.perform, Action.bind_pure_snd, Editor.store_save]
    exact hstore.set _ _
  · exact hstore.of_contents (Operation.contents_perform hsave s).symm

/-- A save comes first in the list if it returns, and changes nothing under other keys. -/
theorem reflects_save (hstore : s.host.store.IsReliable) (h : s.host.store.Reflects saves) :
    (Editor.save s).2.host.store.Reflects ((s.saved? .save).toList ++ saves) := by
  intro key g hg
  rw [Editor.store_save]
  cases hsaved : s.saved? .save with
  | none =>
    rw [hsaved] at hg
    refine (h key g hg).set hstore (.inr fun records hset => ?_)
    exact saved?_save_eq_none hsaved ((Editor.save_eq_ok_iff s).mpr ⟨records, hset⟩)
  | some entry =>
    obtain ⟨hsave, rfl⟩ := saved?_save_eq_some hsaved
    obtain ⟨records, hset⟩ := (Editor.save_eq_ok_iff s).mp hsave
    rw [hsaved, Option.toList_some, List.singleton_append, List.lookup_cons] at hg
    by_cases hkey : key = s.editor.storageKey
    · rw [hkey, beq_self_eq_true] at hg
      cases hg
      rw [hkey]
      exact Store.holds_of_set hstore (Grid.allPlain_write _) (Grid.write_ne_empty _) hset
    · rw [beq_false_of_ne hkey] at hg
      exact (h key g hg).set hstore (.inl hkey)

theorem reflects_perform (hstore : s.host.store.IsReliable) (h : s.host.store.Reflects saves)
    (operation : Operation) :
    (operation.perform s).2.host.store.Reflects ((s.saved? operation).toList ++ saves) := by
  by_cases hsave : operation = .save
  · rw [hsave, Operation.perform, Action.bind_pure_snd]
    exact reflects_save hstore h
  · rw [saved?_of_ne_save s hsave]
    intro key g hg
    exact (h key g hg).of_contents (Operation.contents_perform hsave s).symm

end Session

/-- Editors with the store and the log that they share. -/
structure Team where
  editors : List Editor
  host : Host

/-- What happens to a team: another editor joins it, or the editor of a number performs an
operation. -/
inductive Turn where
  | join (e : Editor)
  | perform (editor : Nat) (operation : Operation)

namespace Team

/-- The team after a turn, whether the operation fails or not. -/
def step (t : Team) : Turn → Team
  | .join e => { t with editors := t.editors ++ [e] }
  | .perform i operation =>
    match t.editors[i]? with
    | none => t
    | some e =>
      let s := (operation.perform ⟨e, t.host⟩).2
      ⟨t.editors.set i s.editor, s.host⟩

/-- The team after turns one after the other. -/
def run (t : Team) (turns : List Turn) : Team :=
  turns.foldl step t

/-- What a turn saves, and under which key. -/
def saved? (t : Team) : Turn → Option (String × Grid)
  | .join _ => none
  | .perform i operation => t.editors[i]?.bind fun e => Session.saved? ⟨e, t.host⟩ operation

/-- What turns save, the last save first. -/
def saves : Team → List Turn → List (String × Grid)
  | _, [] => []
  | t, turn :: turns => saves (t.step turn) turns ++ (t.saved? turn).toList

variable {t : Team} {known : List (String × Grid)}

theorem run_cons (t : Team) (turn : Turn) (turns : List Turn) :
    t.run (turn :: turns) = (t.step turn).run turns :=
  rfl

/-- A turn is of no matter to what is shared, or an editor performs an operation. -/
theorem step_cases (t : Team) (turn : Turn) :
    (t.step turn).host = t.host ∧ t.saved? turn = none ∨
    ∃ i operation e, turn = .perform i operation ∧
      (t.step turn).host = (operation.perform ⟨e, t.host⟩).2.host ∧
      t.saved? turn = Session.saved? ⟨e, t.host⟩ operation := by
  cases turn with
  | join e => exact .inl ⟨rfl, rfl⟩
  | perform i operation =>
    rw [step, saved?]
    cases t.editors[i]? with
    | none => exact .inl ⟨rfl, rfl⟩
    | some e => exact .inr ⟨i, operation, e, rfl, rfl, rfl⟩

theorem isReliable_step (hstore : t.host.store.IsReliable) (turn : Turn) :
    (t.step turn).host.store.IsReliable := by
  rcases t.step_cases turn with ⟨hhost, _⟩ | ⟨i, operation, e, _, hhost, _⟩
  · rw [hhost]
    exact hstore
  · rw [hhost]
    exact Session.isReliable_perform (s := ⟨e, t.host⟩) hstore operation

theorem reflects_step (hstore : t.host.store.IsReliable) (h : t.host.store.Reflects known)
    (turn : Turn) : (t.step turn).host.store.Reflects ((t.saved? turn).toList ++ known) := by
  rcases t.step_cases turn with ⟨hhost, hsaved⟩ | ⟨i, operation, e, _, hhost, hsaved⟩
  · rw [hhost, hsaved]
    exact h
  · rw [hhost, hsaved]
    exact Session.reflects_perform (s := ⟨e, t.host⟩) hstore h operation

/-- However the operations of the editors interleave, the store reflects what they saved. -/
theorem reflects_run (hstore : t.host.store.IsReliable) (h : t.host.store.Reflects known)
    (turns : List Turn) : (t.run turns).host.store.Reflects (t.saves turns ++ known) := by
  induction turns generalizing t known with
  | nil => exact h
  | cons turn turns ih =>
    rw [run_cons, saves, List.append_assoc]
    exact ih (isReliable_step hstore turn) (reflects_step hstore h turn)

/-- A turn that is not a save leaves what the store keeps. -/
theorem contents_step (t : Team) {turn : Turn} (h : ∀ i, turn ≠ .perform i .save) :
    (t.step turn).host.store.contents = t.host.store.contents := by
  rcases t.step_cases turn with ⟨hhost, _⟩ | ⟨i, operation, e, rfl, hhost, _⟩
  · rw [hhost]
  · rw [hhost]
    refine Operation.contents_perform ?_ ⟨e, t.host⟩
    rintro rfl
    exact h i rfl

/-- **A load finds what was last saved.**  Any number of editors share a store, join at any time and
perform their operations in any order.  Once a grid is saved under a key, a load under this key
returns if the editor has the size of the grid saved last, and then the editor has this grid as it
was when it was saved.  Else the load is refused and leaves the editor as it is.  What the store
keeps changes through saves alone.  The texts of the cells are any of Unicode scalar values. -/
theorem load_after_saves (hstore : t.host.store.IsReliable) (turns : List Turn) :
    (∀ e ∈ (t.run turns).editors, ∀ g, (t.saves turns).lookup e.storageKey = some g →
      ∃ left : Session,
        if g.rows = e.grid.rows ∧ g.cols = e.grid.cols then
          Editor.load ⟨e, (t.run turns).host⟩ = (.ok true, left) ∧
            left.editor = { e with grid := g }
        else
          Editor.load ⟨e, (t.run turns).host⟩ =
            (.error (.store (.persistence (.otherSize e.storageKey g.rows g.cols
              e.grid.rows e.grid.cols))), left) ∧ left.editor = e) ∧
    ∀ turn : Turn, (∀ i, turn ≠ .perform i .save) →
      ((t.run turns).step turn).host.store.contents = (t.run turns).host.store.contents := by
  refine ⟨fun e _ g hsaved => ?_, fun turn h => contents_step _ h⟩
  have hknown : t.host.store.Reflects [] := by
    intro key g h
    cases h
  have hreflects := reflects_run hstore hknown turns
  rw [List.append_nil] at hreflects
  have hholds : (⟨e, (t.run turns).host⟩ : Session).host.store.Holds e.storageKey (g.write {}) :=
    hreflects e.storageKey g hsaved
  exact Editor.load_of_holds hholds

/-- Two editors on the worksheets of a service. -/
def pair : Team where
  editors := [.small, .small]
  host := { store := .sheets ⟨0⟩ { books := [{ title := "cellgrid" }] }, depthLimit := .least }

/-- An editor for cells below each other. -/
def tall : Editor :=
  { Editor.small with grid := .blank 2 1 Nat.two_pos Nat.one_pos maxCols_pos }

/-- The first editor saves and goes on with its cell, and a third editor joins. -/
def pairTurns : List Turn :=
  [.perform 0 (.setLiteral 0 0 "a"), .perform 0 .save, .perform 0 (.setLiteral 0 0 "b"), .join tall]

/-- The second editor loads what was saved and not what came later, and the third one, which has
another size, is refused. -/
theorem load_after_saves_pair :
    pair.host.store.IsReliable ∧
    (∃ left : Session, Editor.load ⟨.small, (pair.run pairTurns).host⟩ = (.ok true, left) ∧
      left.editor.grid.cells = [[⟨"a", ""⟩, {}]]) ∧
    ∃ left : Session, Editor.load ⟨tall, (pair.run pairTurns).host⟩ =
      (.error (.store (.persistence (.otherSize "spreadsheet" 1 2 2 1))), left) ∧
        left.editor = tall := by
  have hstore : pair.host.store.IsReliable := ⟨by decide, fun _ => rfl⟩
  have hsaved : (pair.saves pairTurns).lookup "spreadsheet" =
      some (Editor.small.grid.put 0 0 ⟨"a", ""⟩) := rfl
  have hload := (load_after_saves hstore pairTurns).1
  refine ⟨hstore, ?_, ?_⟩
  · have hmem : Editor.small ∈ (pair.run pairTurns).editors := List.mem_of_getElem? (i := 1) rfl
    obtain ⟨left, hleft⟩ := hload Editor.small hmem _ hsaved
    rw [if_pos (by decide)] at hleft
    refine ⟨left, hleft.1, ?_⟩
    rw [hleft.2]
    rfl
  · have hmem : tall ∈ (pair.run pairTurns).editors := List.mem_of_getElem? (i := 2) rfl
    obtain ⟨left, hleft⟩ := hload tall hmem _ hsaved
    rw [if_neg (by decide)] at hleft
    exact ⟨left, hleft⟩

end Team

end Spreadsheet

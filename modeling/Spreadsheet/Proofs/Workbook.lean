import Mathlib.Logic.Basic
import Spreadsheet.Action
import Spreadsheet.Proofs.Document
import Spreadsheet.Proofs.Places
import Spreadsheet.Proofs.Timeline

/-!
What grids hold after any writes, copies and restored contents.

A `Workbook` is a number of grids side by side.  Writing a cell and restoring contents changes one
of them; copying a grid, or making one of contents, adds one at the end.  `Workbook.lastPut?` is the
cell that was put at a place last, by a write or with contents that the grid took.  **A grid keeps
its size and holds at each place what was put there last** (`Workbook.holds_last_put`), in whatever
way it is looked at (`Grid.IsArray`), and what is refused changes nothing (`Workbook.Answers`).  The
step for one change is `Workbook.overlays_perform`, and changes one after the other put their cells
over those of the changes before (`Grid.Overlays.trans`).
-/

namespace Spreadsheet

/-- The refusal is an index error: there is no such place.  All other refusals are value errors. -/
def GridError.isIndexError : GridError → Bool
  | .outside .. => true
  | .notPositive | .tooManyColumns | .noCells | .otherShape .. => false

/-- The contents are rows of one width, which a grid may have. -/
def Snapshot.IsRectangle (s : Snapshot) : Prop :=
  s ≠ [] ∧ ∃ cols, (1 ≤ cols ∧ cols ≤ maxCols) ∧ ∀ row ∈ s, row.length = cols

namespace Grid

variable {g g' g'' : Grid} {s : Snapshot}

/-! ### Views of a grid -/

/-- A grid is an array of a size with the given cells, in whatever way it is looked at: by its
contents as a whole, by one place, or by the list of all cells with their places. -/
structure IsArray (g : Grid) (rows cols : Nat) (cellOf : Nat → Nat → Cell) : Prop where
  size : g.rows = rows ∧ g.cols = cols
  shape : g.snapshot.HasShape rows cols
  snapshot : ∀ row col, row < rows → col < cols → g.snapshot.cellAt row col = cellOf row col
  get : ∀ row col c, g.get row col = .ok c ↔
    ((0 ≤ row ∧ row < rows) ∧ (0 ≤ col ∧ col < cols)) ∧ c = cellOf row.toNat col.toNat
  refused : ∀ row col e, g.get row col = .error e → e = .outside row col rows cols
  increasing : g.entries.Pairwise fun a b => a.1 < b.1
  entries : ∀ ref c, (ref, c) ∈ g.entries ↔ g.get ref.row ref.col = .ok c
  formulaCells : g.formulaCells.Sublist g.entries ∧
    ∀ entry, entry ∈ g.formulaCells ↔ entry ∈ g.entries ∧ entry.2.formula ≠ ""

theorem mem_entries_iff_get (g : Grid) (ref : CellRef) (c : Cell) :
    (ref, c) ∈ g.entries ↔ g.get ref.row ref.col = .ok c := by
  rw [mem_entries_iff, get_eq_ok_iff]
  constructor
  · rintro ⟨row, col, hrow, hcol, hentry⟩
    obtain ⟨rfl, rfl⟩ := Prod.mk.inj hentry
    exact ⟨⟨⟨Int.natCast_nonneg _, Int.ofNat_lt.mpr hrow⟩, Int.natCast_nonneg _,
      Int.ofNat_lt.mpr hcol⟩, rfl⟩
  · rintro ⟨⟨⟨hrow, hrows⟩, hcol, hcols⟩, rfl⟩
    refine ⟨ref.row.toNat, ref.col.toNat, by omega, by omega, ?_⟩
    rw [Int.toNat_of_nonneg hrow, Int.toNat_of_nonneg hcol]

/-- All views of a grid agree with one another. -/
theorem isArray_of_cellAt {rows cols : Nat} {cellOf : Nat → Nat → Cell} (hrows : g.rows = rows)
    (hcols : g.cols = cols)
    (hcells : ∀ row col, row < rows → col < cols → g.cellAt row col = cellOf row col) :
    g.IsArray rows cols cellOf := by
  subst hrows
  subst hcols
  refine ⟨⟨rfl, rfl⟩, g.shape, hcells, fun row col c => ?_, fun row col e herror => ?_,
    g.pairwise_entries, g.mem_entries_iff_get, List.filter_sublist, fun entry => ?_⟩
  · rw [get_eq_ok_iff]
    refine and_congr_right fun hin => ?_
    obtain ⟨⟨hrow, hrows⟩, hcol, hcols⟩ := hin
    rw [hcells row.toNat col.toNat (by omega) (by omega)]
    exact eq_comm
  · rw [get] at herror
    split at herror
    · cases herror
    · cases herror
      rfl
  · rw [Grid.formulaCells, List.mem_filter, Cell.isFormula, bne_iff_ne]

theorem cellAt_blank {rows cols : Nat} (hrows : 0 < rows) (hcols : 0 < cols)
    (hle : cols ≤ maxCols) (row col : Nat) :
    (blank rows cols hrows hcols hle).cellAt row col = {} := by
  simp only [cellAt, blank, List.getElem?_replicate]
  split
  · rw [Option.getD_some, List.getElem?_replicate]
    split <;> rfl
  · rfl

/-! ### Contents that a grid takes -/

/-- The rectangles are what grids hold. -/
theorem exists_snapshot_eq_iff (s : Snapshot) : (∃ g : Grid, g.snapshot = s) ↔ s.IsRectangle := by
  constructor
  · rintro ⟨g, rfl⟩
    refine ⟨fun hnil => ?_, g.cols, ⟨g.cols_pos, g.cols_le⟩, g.shape.2⟩
    have hrows := g.shape.1
    rw [show g.cells = [] from hnil] at hrows
    exact Nat.ne_of_lt g.rows_pos hrows
  · rintro ⟨hne, cols, ⟨hpos, hle⟩, hwidth⟩
    exact ⟨⟨s.length, cols, s, List.length_pos_iff.mpr hne, hpos, hle, rfl, hwidth⟩, rfl⟩

/-- A new grid takes the contents, or there are none. -/
theorem ofSnapshot_cases (s : Snapshot) :
    ofSnapshot s = .error .noCells ∨
      ∃ rows cols : Int, ofSnapshot s = (new rows cols).bind (·.restore s) := by
  match s with
  | [] => exact .inl rfl
  | [] :: rest => exact .inl rfl
  | (c :: row) :: rest =>
    refine .inr ⟨((c :: row) :: rest).length, (c :: row).length, ?_⟩
    rw [ofSnapshot]
    · rfl
    · exact List.cons_ne_nil c row

/-- The grid that is made of contents holds them. -/
theorem ofSnapshot_eq_ok_iff (s : Snapshot) (g : Grid) : ofSnapshot s = .ok g ↔ g.snapshot = s := by
  constructor
  · intro h
    obtain hnone | ⟨rows, cols, hmade⟩ := ofSnapshot_cases s
    · rw [hnone] at h
      cases h
    · rw [hmade] at h
      cases hnew : new rows cols with
      | error e =>
        rw [hnew] at h
        cases h
      | ok blank =>
        rw [hnew] at h
        exact ((restore_eq_ok_iff blank g s).mp h).2.2.2
  · rintro rfl
    exact ofSnapshot_snapshot g

theorem isIndexError_of_new {rows cols : Int} {e : GridError} (h : new rows cols = .error e) :
    e.isIndexError = false := by
  rw [new] at h
  split at h
  · cases h
    rfl
  · split at h
    · cases h
      rfl
    · cases h

theorem isIndexError_of_restore {e : GridError} (h : g.restore s = .error e) :
    e.isIndexError = false := by
  rw [restore] at h
  split at h
  · cases h
  · cases h
    rfl

/-- Contents that no grid is made of are refused with a value error. -/
theorem isIndexError_of_ofSnapshot {e : GridError} (h : ofSnapshot s = .error e) :
    e.isIndexError = false := by
  obtain hnone | ⟨rows, cols, hmade⟩ := ofSnapshot_cases s
  · rw [hnone] at h
    cases h
    rfl
  · rw [hmade] at h
    cases hnew : new rows cols with
    | error e' =>
      rw [hnew] at h
      cases h
      exact isIndexError_of_new hnew
    | ok blank =>
      rw [hnew] at h
      exact isIndexError_of_restore h

/-! ### Cells put over those of a grid -/

/-- The second grid is the first one with cells put over some of its own. -/
structure Overlays (g g' : Grid) (put : Nat → Nat → Option Cell) : Prop where
  rows : g'.rows = g.rows
  cols : g'.cols = g.cols
  cells : ∀ row col, row < g.rows → col < g.cols →
    g'.cellAt row col = (put row col).getD (g.cellAt row col)

variable {put put' : Nat → Nat → Option Cell}

theorem overlays_self (hput : ∀ row col, row < g.rows → col < g.cols → put row col = none) :
    g.Overlays g put := by
  refine ⟨rfl, rfl, fun row col hrow hcol => ?_⟩
  rw [hput row col hrow hcol, Option.getD_none]

/-- What is put over a grid later is seen first. -/
theorem Overlays.trans (h : g.Overlays g' put) (h' : g'.Overlays g'' put') :
    g.Overlays g'' fun row col => (put' row col).or (put row col) := by
  refine ⟨h'.rows.trans h.rows, h'.cols.trans h.cols, fun row col hrow hcol => ?_⟩
  rw [h'.cells row col (h.rows ▸ hrow) (h.cols ▸ hcol), h.cells row col hrow hcol, Option.getD_or]

theorem Overlays.isArray (h : g.Overlays g' put) :
    g'.IsArray g.rows g.cols fun row col => (put row col).getD (g.cellAt row col) :=
  isArray_of_cellAt h.rows h.cols h.cells

/-- A write puts its cell over the one at its place, if there is such a place. -/
theorem overlays_set (g : Grid) (row col : Int) (c : Cell) :
    g.Overlays ((g.set row col c).toOption.getD g)
      fun r k => if row = r ∧ col = k then some c else none := by
  cases hset : g.set row col c with
  | error e =>
    -- A place of the grid would not have been refused.
    refine overlays_self fun r k hr hk => if_neg ?_
    rintro ⟨rfl, rfl⟩
    have hin : g.InBounds r k :=
      ⟨⟨Int.natCast_nonneg _, Int.ofNat_lt.mpr hr⟩, Int.natCast_nonneg _, Int.ofNat_lt.mpr hk⟩
    rw [set, if_pos hin] at hset
    cases hset
  | ok g' =>
    obtain ⟨⟨⟨hrow, hrows⟩, hcol, hcols⟩, rfl⟩ := (set_eq_ok_iff g g' row col c).mp hset
    refine ⟨rfl, rfl, fun r k hr hk => ?_⟩
    show (g.put row.toNat col.toNat c).cellAt r k = _
    rw [cellAt_put g (by omega) (by omega) c r k]
    by_cases hplace : r = row.toNat ∧ k = col.toNat
    · rw [if_pos hplace, if_pos (by omega), Option.getD_some]
    · rw [if_neg hplace, if_neg (by omega), Option.getD_none]

/-- Contents that the grid takes are put over all of its cells. -/
theorem overlays_restore (g : Grid) (s : Snapshot) :
    g.Overlays ((g.restore s).toOption.getD g)
      fun row col => if s.HasShape g.rows g.cols then some (s.cellAt row col) else none := by
  rw [restore]
  by_cases hshape : s.HasShape g.rows g.cols
  · rw [dif_pos hshape]
    refine ⟨rfl, rfl, fun row col _ _ => ?_⟩
    rw [if_pos hshape]
    rfl
  · rw [dif_neg hshape]
    exact overlays_self fun row col _ _ => if_neg hshape

end Grid

/-- Grids side by side. -/
abbrev Workbook := List Grid

namespace Workbook

/-- What is done to the grids, which are told by their numbers. -/
inductive Change where
  | set (k : Nat) (row col : Int) (c : Cell)
  | setLiteral (k : Nat) (row col : Int) (text : String)
  | restore (k : Nat) (s : Snapshot)
  | clone (k : Nat)
  | ofSnapshot (s : Snapshot)
deriving DecidableEq, Repr

/-- Changes one of the grids.  If that is refused, or if there is no such grid, nothing changes. -/
def replace (k : Nat) (f : Grid → Except GridError Grid) : Action GridError Workbook Unit :=
  fun w =>
  match w[k]? with
  | none => (.ok (), w)
  | some g =>
    match f g with
    | .ok g' => (.ok (), List.set w k g')
    | .error e => (.error e, w)

/-- Adds a grid that is made of contents. -/
def add (s : Snapshot) : Action GridError Workbook Unit := fun w =>
  match Grid.ofSnapshot s with
  | .ok g => (.ok (), w ++ [g])
  | .error e => (.error e, w)

/-- Adds a copy of a grid, which is made of its contents. -/
def copy (k : Nat) : Action GridError Workbook Unit := fun w =>
  match w[k]? with
  | none => (.ok (), w)
  | some g => add g.snapshot w

/-- Makes a change. -/
def Change.perform : Change → Action GridError Workbook Unit
  | .set k row col c => replace k (·.set row col c)
  | .setLiteral k row col text => replace k (·.set row col { value := text })
  | .restore k s => replace k (·.restore s)
  | .clone k => copy k
  | .ofSnapshot s => add s

/-- The grids after changes one after the other, refused ones included. -/
def run (w : Workbook) (changes : List Change) : Workbook :=
  changes.foldl (fun w change => (change.perform w).2) w

/-- The cell that a change puts at a place of a grid of the given size, if it does. -/
def Change.puts? (k rows cols row col : Nat) : Change → Option Cell
  | .set j r i c => if j = k ∧ r = row ∧ i = col then some c else none
  | .setLiteral j r i text => if j = k ∧ r = row ∧ i = col then some { value := text } else none
  | .restore j s => if j = k ∧ s.HasShape rows cols then some (s.cellAt row col) else none
  | .clone _ | .ofSnapshot _ => none

/-- The cell that was put at a place last. -/
def lastPut? (k rows cols row col : Nat) (changes : List Change) : Option Cell :=
  changes.reverse.findSome? (·.puts? k rows cols row col)

/-- What the grids answer to changes. -/
structure Answers (w : Workbook) : Prop where
  set : ∀ k g, w[k]? = some g → ∀ row col c, g.InBounds row col →
    (Change.set k row col c).perform w = (.ok (), List.set w k (g.put row.toNat col.toNat c))
  setOutside : ∀ k g, w[k]? = some g → ∀ row col c, ¬g.InBounds row col →
    (Change.set k row col c).perform w = (.error (.outside row col g.rows g.cols), w)
  setLiteral : ∀ k row col text,
    (Change.setLiteral k row col text).perform w =
      (Change.set k row col ⟨text, ""⟩).perform w
  restore : ∀ k g, w[k]? = some g → ∀ s, s.HasShape g.rows g.cols →
    ∃ g', (Change.restore k s).perform w = (.ok (), List.set w k g') ∧ g'.snapshot = s
  restoreOther : ∀ k g, w[k]? = some g → ∀ s, ¬s.HasShape g.rows g.cols →
    (Change.restore k s).perform w = (.error (.otherShape g.rows g.cols), w)
  clone : ∀ k g, w[k]? = some g → (Change.clone k).perform w = (.ok (), w ++ [g])
  ofSnapshot : ∀ s, s.IsRectangle →
    ∃ g, (Change.ofSnapshot s).perform w = (.ok (), w ++ [g]) ∧ g.snapshot = s
  ofOther : ∀ s, ¬s.IsRectangle →
    ∃ e, (Change.ofSnapshot s).perform w = (.error e, w) ∧ e.isIndexError = false

variable {w : Workbook} {g g' : Grid} {k : Nat} {changes : List Change} {change : Change}

theorem lastPut?_cons (k rows cols row col : Nat) (change : Change) (changes : List Change) :
    lastPut? k rows cols row col (change :: changes) =
      (lastPut? k rows cols row col changes).or (change.puts? k rows cols row col) := by
  rw [lastPut?, List.reverse_cons, List.findSome?_append, List.findSome?_singleton]
  rfl

/-! ### One change -/

theorem replace_ok {f : Grid → Except GridError Grid} (hk : w[k]? = some g) (hf : f g = .ok g') :
    replace k f w = (.ok (), List.set w k g') := by
  rw [replace, hk]
  simp only [hf]

theorem replace_error {f : Grid → Except GridError Grid} {e : GridError} (hk : w[k]? = some g)
    (hf : f g = .error e) : replace k f w = (.error e, w) := by
  rw [replace, hk]
  simp only [hf]

theorem replace_none {f : Grid → Except GridError Grid} (hk : w[k]? = none) :
    replace k f w = (.ok (), w) := by
  rw [replace, hk]

/-- Only the grid that is changed becomes another one. -/
theorem getElem?_replace (j : Nat) (f : Grid → Except GridError Grid) (hk : w[k]? = some g) :
    (replace j f w).2[k]? = some (if j = k then (f g).toOption.getD g else g) := by
  by_cases hj : j = k
  · subst hj
    rw [if_pos rfl]
    cases hf : f g with
    | error e =>
      rw [replace_error hk hf]
      exact hk
    | ok g' =>
      rw [replace_ok hk hf]
      exact List.getElem?_set_self (List.getElem?_eq_some_iff.mp hk).1
  · -- Another grid is changed, if there is one.
    rw [if_neg hj]
    cases hother : w[j]? with
    | none =>
      rw [replace_none hother]
      exact hk
    | some other =>
      cases hf : f other with
      | error e =>
        rw [replace_error hother hf]
        exact hk
      | ok changed =>
        rw [replace_ok hother hf, ← hk]
        exact List.getElem?_set_ne hj

theorem getElem?_add (s : Snapshot) (hk : w[k]? = some g) : (add s w).2[k]? = some g := by
  rw [add]
  cases Grid.ofSnapshot s with
  | error e => exact hk
  | ok made =>
    rw [← hk]
    exact List.getElem?_append_left (List.getElem?_eq_some_iff.mp hk).1

/-- A change of one grid puts cells over those of that grid only. -/
theorem overlays_replace (f : Grid → Except GridError Grid) {put : Nat → Nat → Option Cell}
    (j : Nat) (hk : w[k]? = some g) (hf : g.Overlays ((f g).toOption.getD g) put) :
    ∃ g', (replace j f w).2[k]? = some g' ∧
      g.Overlays g' fun row col => if j = k then put row col else none := by
  refine ⟨_, getElem?_replace j f hk, ?_⟩
  by_cases hj : j = k
  · simp only [if_pos hj]
    exact hf
  · simp only [if_neg hj]
    exact Grid.overlays_self fun _ _ _ _ => rfl

theorem overlays_perform_set (j : Nat) (row col : Int) (c : Cell) (hk : w[k]? = some g) :
    ∃ g', ((Change.set j row col c).perform w).2[k]? = some g' ∧
      g.Overlays g' fun r i => (Change.set j row col c).puts? k g.rows g.cols r i := by
  have h := overlays_replace (·.set row col c) j hk (g.overlays_set row col c)
  simpa only [Change.perform, Change.puts?, ite_and] using h

/-- One change puts its cells over those of a grid. -/
theorem overlays_perform (change : Change) (hk : w[k]? = some g) :
    ∃ g', (change.perform w).2[k]? = some g' ∧
      g.Overlays g' fun row col => change.puts? k g.rows g.cols row col := by
  cases change with
  | set j row col c => exact overlays_perform_set j row col c hk
  | setLiteral j row col text => exact overlays_perform_set j row col ⟨text, ""⟩ hk
  | restore j s =>
    have h := overlays_replace (·.restore s) j hk (g.overlays_restore s)
    simpa only [Change.perform, Change.puts?, ite_and] using h
  | clone j =>
    refine ⟨g, ?_, Grid.overlays_self fun _ _ _ _ => rfl⟩
    rw [Change.perform, copy]
    cases w[j]? with
    | none => exact hk
    | some other => exact getElem?_add other.snapshot hk
  | ofSnapshot s => exact ⟨g, getElem?_add s hk, Grid.overlays_self fun _ _ _ _ => rfl⟩

/-- Which changes are made, and that refused ones change nothing. -/
theorem answers (w : Workbook) : w.Answers where
  set k g hk row col c hin := replace_ok hk (if_pos hin)
  setOutside k g hk row col c hout := replace_error hk (if_neg hout)
  setLiteral k row col text := rfl
  restore k g hk s hshape := ⟨_, replace_ok hk (dif_pos hshape), rfl⟩
  restoreOther k g hk s hshape := replace_error hk (dif_neg hshape)
  clone k g hk := by
    rw [Change.perform, copy, hk]
    show add g.snapshot w = _
    rw [add, Grid.ofSnapshot_snapshot]
  ofSnapshot s hs := by
    obtain ⟨g, hg⟩ := (Grid.exists_snapshot_eq_iff s).mpr hs
    refine ⟨g, ?_, hg⟩
    rw [Change.perform, add, (Grid.ofSnapshot_eq_ok_iff s g).mpr hg]
  ofOther s hs := by
    rw [Change.perform, add]
    cases hmade : Grid.ofSnapshot s with
    | error e => exact ⟨e, rfl, Grid.isIndexError_of_ofSnapshot hmade⟩
    | ok g =>
      have hg := (Grid.ofSnapshot_eq_ok_iff s g).mp hmade
      exact absurd ((Grid.exists_snapshot_eq_iff s).mp ⟨g, hg⟩) hs

/-! ### All changes -/

/-- Changes one after the other put over a grid what each of them puts there, the last one on top.
-/
theorem overlays_run (hk : w[k]? = some g) (changes : List Change) :
    ∃ g', (run w changes)[k]? = some g' ∧
      g.Overlays g' fun row col => lastPut? k g.rows g.cols row col changes := by
  induction changes generalizing w g with
  | nil => exact ⟨g, hk, Grid.overlays_self fun _ _ _ _ => rfl⟩
  | cons change changes ih =>
    obtain ⟨changed, hchanged, hchange⟩ := overlays_perform change hk
    obtain ⟨g', hg', hrest⟩ := ih hchanged
    refine ⟨g', hg', ?_⟩
    rw [hchange.rows, hchange.cols] at hrest
    simp only [lastPut?_cons]
    exact hchange.trans hrest

/-- **A grid keeps its size and holds at each place what was put there last**, by a write or with
contents that it took, and before that what it held at first.  This is so for a new grid and for all
copies of it and all grids that are made of contents, from any time on, whatever is done with all of
them. -/
theorem holds_last_put {rows cols : Int} (hrows : 1 ≤ rows) (hcols : 1 ≤ cols)
    (hle : cols ≤ maxCols) :
    ∃ g : Grid, Grid.new rows cols = .ok g ∧ g.IsArray rows.toNat cols.toNat (fun _ _ => {}) ∧
      ∀ before : List Change, Answers (run [g] before) ∧
        ∀ (k : Nat) (h : Grid), (run [g] before)[k]? = some h → ∀ after : List Change,
          ∃ h' : Grid, (run [g] (before ++ after))[k]? = some h' ∧
            h'.IsArray h.rows h.cols fun row col =>
              (lastPut? k h.rows h.cols row col after).getD (h.cellAt row col) := by
  obtain ⟨m, rfl⟩ := Int.eq_ofNat_of_zero_le (show 0 ≤ rows by omega)
  obtain ⟨n, rfl⟩ := Int.eq_ofNat_of_zero_le (show 0 ≤ cols by omega)
  refine ⟨_, Grid.new_natCast (by omega) (by omega) (by omega), ?_, fun before => ?_⟩
  · exact Grid.isArray_of_cellAt rfl rfl fun row col _ _ => Grid.cellAt_blank _ _ _ row col
  · refine ⟨answers _, fun k h hk after => ?_⟩
    obtain ⟨h', hh', hafter⟩ := overlays_run hk after
    refine ⟨h', ?_, hafter.isArray⟩
    rw [run, List.foldl_append]
    exact hh'

/-- A formula is written, and the grid is copied. -/
def copying : List Change :=
  [.set 0 0 1 ⟨"1", "=A1"⟩, .clone 0]

/-- Writes inside and outside of the copy, a write of the grid that was copied, and ragged contents.
-/
def editing : List Change :=
  [.set 1 (-1) 0 ⟨"2", ""⟩, .setLiteral 1 1 0 "3", .setLiteral 0 0 1 "4", .restore 1 [[{}, {}], []]]

/-- The copy holds the formula that was copied and the text that was written inside of it. -/
theorem holds_last_put_copy :
    ∃ g h : Grid, Grid.new 2 2 = .ok g ∧ (run [g] (copying ++ editing))[1]? = some h ∧
      h.get 0 1 = .ok ⟨"1", "=A1"⟩ ∧ h.get 1 0 = .ok ⟨"3", ""⟩ ∧ h.get 0 0 = .ok {} ∧
      (⟨0, 1⟩, ⟨"1", "=A1"⟩) ∈ h.formulaCells := by
  have hsize : (1 : Int) ≤ 2 ∧ (2 : Int) ≤ maxCols := by decide
  obtain ⟨g, hnew, -, hruns⟩ := holds_last_put hsize.1 hsize.1 hsize.2
  cases hnew
  obtain ⟨h, hh, harray⟩ := (hruns copying).2 1 _ rfl editing
  have hformula : h.get 0 1 = .ok ⟨"1", "=A1"⟩ := (harray.get 0 1 _).mpr (by decide)
  refine ⟨_, h, rfl, hh, hformula, (harray.get 1 0 _).mpr (by decide),
    (harray.get 0 0 _).mpr (by decide), ?_⟩
  exact (harray.formulaCells.2 _).mpr ⟨(harray.entries ⟨0, 1⟩ _).mpr hformula, by decide⟩

end Workbook

end Spreadsheet

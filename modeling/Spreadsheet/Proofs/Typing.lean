import Spreadsheet.Proofs.Atomicity
import Spreadsheet.Proofs.Pass
import Spreadsheet.Proofs.Staleness

/-!
Typing into a cell.

A text that is applied to a cell becomes its formula or its value, and either way it is what there
is to edit in the cell (`Editor.source_of_cellOf`).  An operation that is not aimed at the cell
leaves this alone, also a recalculation, which writes values but no formulas
(`Operation.source_perform`), and so do operations one after the other (`Editor.source_after`).  So
the formula bar shows the text again whenever the cell is selected (`Editor.typed_text_stays`).
-/

namespace Spreadsheet

open Formula (IsEvaluable IsFormula Registry)

/-- Another value makes no difference beside a formula. -/
theorem Cell.source_eq {c c' : Cell} (hformula : c'.formula = c.formula) (hne : c.formula ≠ "") :
    c'.source = c.source := by
  simp [source, isFormula, hformula, hne]

/-- What is put at another place of the grid leaves a cell. -/
theorem Grid.cellAt_put_of_ne {g : Grid} {place : CellRef} {row col : Nat}
    (hin : g.InBounds place.row place.col) (hne : place ≠ ⟨row, col⟩) (c : Cell) :
    (g.put place.row.toNat place.col.toNat c).cellAt row col = g.cellAt row col := by
  obtain ⟨i, j, rfl, hi, hj⟩ := hin.exists_nat
  refine (g.cellAt_put hi hj c row col).trans (if_neg ?_)
  rintro ⟨rfl, rfl⟩
  exact hne rfl

/-- A sweep over the formula cells leaves what there is to edit in a cell. -/
theorem Sweep.Tracks.source_eq {g : Grid} {w : Sweep} (h : Tracks g g.formulaCells w)
    (row col : Nat) : (w.grid.cellAt row col).source = (g.cellAt row col).source := by
  by_cases hformula : (g.cellAt row col).formula = ""
  · rw [h.cellAt_eq fun hmet => (g.mem_places_iff row col).mp hmet hformula]
  · exact Cell.source_eq (h.formula row col) hformula

namespace Editor

variable {s t : Session} {row col : Nat}

theorem cellAt_write_of_ne {place : CellRef} (hne : place ≠ ⟨row, col⟩) (c : Cell) (s : Session) :
    (write place.row place.col c s).2.editor.grid.cellAt row col =
      s.editor.grid.cellAt row col := by
  rw [write_apply]
  by_cases hin : s.editor.grid.InBounds place.row place.col
  · rw [if_pos hin]
    exact Grid.cellAt_put_of_ne hin hne c
  · rw [if_neg hin]

theorem cellAt_apply_of_ne (hactive : s.editor.selection.active ≠ some ⟨row, col⟩) :
    (Editor.apply s).2.editor.grid.cellAt row col = s.editor.grid.cellAt row col := by
  rcases editor_apply_cases s with hsame | ⟨target, c, htarget, hin, hwritten⟩
  · rw [hsame]
  · have hne : target ≠ ⟨row, col⟩ := by
      rintro rfl
      exact hactive htarget
    rw [hwritten]
    exact Grid.cellAt_put_of_ne hin hne c

/-- A recalculation that fails keeps what the sweep has written until then. -/
theorem grid_recalculate (s : Session) :
    (recalculate s).2.editor.grid = s.editor.sweep.2.grid := by
  rw [recalculate_apply]
  rcases s.editor.sweep with ⟨e | _, w⟩
  · rfl
  · dsimp only
    split <;> rfl

end Editor

namespace Operation

open Editor

/-- The operation may replace what there is to edit at a place: it is aimed at the place, or takes
other contents for the whole grid. -/
def Replaces (operation : Operation) (e : Editor) (place : CellRef) : Prop :=
  match operation with
  | .setLiteral row col _ => ⟨row, col⟩ = place
  | .apply => e.selection.active = some place
  | .undo | .redo | .load => True
  | _ => False

/-- Every other operation leaves what there is to edit at the place, whether it returns or fails. -/
theorem source_perform {operation : Operation} {s : Session} {row col : Nat}
    (hspared : ¬operation.Replaces s.editor ⟨row, col⟩) :
    ((operation.perform s).2.editor.grid.cellAt row col).source =
      (s.editor.grid.cellAt row col).source := by
  rw [perform_snd]
  cases operation with
  | selectCell r k =>
    dsimp only
    rw [selectCell_apply]
    split <;> rfl
  | startDrag r k =>
    dsimp only
    rw [startDrag_apply]
    split <;> rfl
  | extendDrag r k =>
    dsimp only
    rw [extendDrag_apply]
    split <;> rfl
  | endDrag => rfl
  | resumeDrag => rfl
  | setLiteral r k text =>
    have hne : (⟨r, k⟩ : CellRef) ≠ ⟨row, col⟩ := hspared
    exact congrArg Cell.source (cellAt_write_of_ne hne ⟨text, ""⟩ s)
  | setBar text => rfl
  | apply => exact congrArg Cell.source (cellAt_apply_of_ne hspared)
  | recalculate =>
    dsimp only
    rw [grid_recalculate]
    exact s.editor.tracks_sweep.source_eq row col
  | undo => exact absurd trivial hspared
  | redo => exact absurd trivial hspared
  | save =>
    dsimp only
    rw [save_apply]
    split <;> rfl
  | load => exact absurd trivial hspared

end Operation

namespace Editor

variable {e : Editor} {s t : Session} {row col : Nat} {steps : List (Host × Operation)}

/-- None of the operations, each in the editor that it finds, may replace what there is to edit at
a place. -/
def Spares (place : CellRef) : Editor → List (Host × Operation) → Prop
  | _, [] => True
  | e, step :: steps =>
    ¬step.2.Replaces e place ∧ Spares place (step.2.perform ⟨e, step.1⟩).2.editor steps

/-- What there is to edit in a cell stays until an operation replaces it. -/
theorem source_after (hspares : Spares ⟨row, col⟩ e steps) :
    ((e.after steps).grid.cellAt row col).source = (e.grid.cellAt row col).source := by
  induction steps generalizing e with
  | nil => rfl
  | cons step steps ih =>
    obtain ⟨hfirst, hrest⟩ := hspares
    exact (ih hrest).trans (Operation.source_perform (s := ⟨e, step.1⟩) hfirst)

theorem Keeps.inBounds_iff {e e' : Editor} (h : Keeps e e') (row col : Int) :
    e'.grid.InBounds row col ↔ e.grid.InBounds row col := by
  rw [Grid.InBounds, Grid.InBounds, h.rows, h.cols]

/-- No operation changes the size of the grid. -/
theorem inBounds_after (e : Editor) (steps : List (Host × Operation)) (row col : Int) :
    (e.after steps).grid.InBounds row col ↔ e.grid.InBounds row col := by
  induction steps generalizing e with
  | nil => rfl
  | cons step steps ih =>
    exact (ih _).trans ((step.2.keeps_perform ⟨e, step.1⟩).inBounds_iff row col)

/-- Selecting the cell puts this text into the formula bar. -/
def Offers (e : Editor) (row col : Int) (text : String) : Prop :=
  ∀ host, ∃ u, selectCell row col ⟨e, host⟩ = (.ok (), u) ∧ u.editor.bar = text

theorem offers_of_source {text : String} (hin : e.grid.InBounds row col)
    (hsource : (e.grid.cellAt row col).source = text) : e.Offers row col text := by
  intro host
  rw [selectCell_apply, if_pos hin]
  exact ⟨_, rfl, hsource⟩

/-- The cell that a text makes offers the text for editing. -/
theorem source_of_cellOf {text : String} {c : Cell} (h : cellOf text s = (.ok c, t)) :
    c.source = text := by
  rw [cellOf_apply] at h
  by_cases hformula : IsFormula text
  · rw [if_pos hformula] at h
    -- The text is not empty, since it begins with an equals sign.
    have hne : text ≠ "" := by
      rintro rfl
      exact absurd hformula (by decide)
    split at h
    · cases h
    · cases h
      simp [Cell.source, Cell.isFormula, hne]
  · rw [if_neg hformula] at h
    cases h
    rfl

/-- A text makes a cell exactly if it can be evaluated. -/
theorem cellOf_returns_iff (text : String) (s : Session) :
    (∃ c t, cellOf text s = (.ok c, t)) ↔
      IsEvaluable s.editor.registry s.editor.grid text := by
  rw [← Formula.evaluate_returns_iff, cellOf_apply]
  by_cases hformula : IsFormula text
  · rw [if_pos hformula]
    cases Formula.evaluate s.editor.registry s.editor.grid text with
    | error e => simp
    | ok outcome => simp
  · rw [if_neg hformula, Formula.evaluate, if_neg hformula]
    simp

/-- An application to a cell of the grid returns exactly if the text can be evaluated. -/
theorem apply_returns_iff (hactive : s.editor.selection.active = some ⟨row, col⟩)
    (hin : s.editor.grid.InBounds row col) :
    (∃ c t, Editor.apply s = (.ok c, t)) ↔
      IsEvaluable s.editor.registry s.editor.grid s.editor.bar := by
  rw [← cellOf_returns_iff s.editor.bar s]
  constructor
  · rintro ⟨c, t, h⟩
    rcases apply_eq_ok h with ⟨hnone, _⟩ | ⟨_, written, u, _, hcell, _⟩
    · rw [hactive] at hnone
      cases hnone
    · exact ⟨written, u, hcell⟩
  · rintro ⟨c, u, hcell⟩
    have heditor := cellOf_editor s.editor.bar s
    rw [hcell] at heditor
    have hin' : u.editor.grid.InBounds row col := by
      rw [show u.editor = s.editor from heditor]
      exact hin
    rw [apply_apply, hactive, hcell]
    simp only [write_apply, if_pos hin']
    exact ⟨_, _, rfl⟩

/-- An application that returns leaves the text to edit in its cell. -/
theorem source_of_apply {c : Option Cell} (hactive : s.editor.selection.active = some ⟨row, col⟩)
    (happly : Editor.apply s = (.ok c, t)) :
    (t.editor.grid.cellAt row col).source = s.editor.bar := by
  rcases apply_eq_ok happly with ⟨hnone, _⟩ | ⟨target, written, u, htarget, hcell, hwrite, _⟩
  · rw [hactive] at hnone
    cases hnone
  · rw [hactive] at htarget
    cases htarget
    rw [write_apply] at hwrite
    obtain ⟨⟨⟨_, hrow⟩, _, hcol⟩, -, rfl⟩ := Action.ite_eq_ok hwrite
    have hput := u.editor.grid.cellAt_put (Int.ofNat_lt.mp hrow) (Int.ofNat_lt.mp hcol) written
      row col
    rw [if_pos ⟨rfl, rfl⟩] at hput
    exact (congrArg Cell.source hput).trans (source_of_cellOf hcell)

/-- An application to a cell changes no other one. -/
theorem cellAt_of_apply {c : Option Cell} {i j : Nat}
    (hactive : s.editor.selection.active = some ⟨row, col⟩)
    (happly : Editor.apply s = (.ok c, t)) (hne : (⟨i, j⟩ : CellRef) ≠ ⟨row, col⟩) :
    t.editor.grid.cellAt i j = s.editor.grid.cellAt i j := by
  have hother : s.editor.selection.active ≠ some ⟨i, j⟩ := by
    rw [hactive]
    exact fun heq => hne (Option.some.inj heq).symm
  have hcell := cellAt_apply_of_ne hother
  rw [happly] at hcell
  exact hcell

theorem offers_after_apply {c : Option Cell}
    (hactive : s.editor.selection.active = some ⟨row, col⟩) (hin : s.editor.grid.InBounds row col)
    (happly : Editor.apply s = (.ok c, t)) (hspares : Spares ⟨row, col⟩ t.editor steps) :
    (t.editor.after steps).Offers row col s.editor.bar := by
  have hkeeps := keeps_apply s
  rw [happly] at hkeeps
  refine offers_of_source ?_ ?_
  · rw [inBounds_after, hkeeps.inBounds_iff]
    exact hin
  · rw [source_after hspares]
    exact source_of_apply hactive happly

/-- Applying what a cell offers makes no difference to it: if the application fails, the cell is as
it was. -/
theorem offers_apply_of_bar (hactive : s.editor.selection.active = some ⟨row, col⟩)
    (hin : s.editor.grid.InBounds row col)
    (hbar : (s.editor.grid.cellAt row col).source = s.editor.bar) :
    (Editor.apply s).2.editor.Offers row col s.editor.bar := by
  rcases happly : Editor.apply s with ⟨fault | c, t⟩
  · have hsame := isAtomic_apply s fault t happly
    show t.editor.Offers row col s.editor.bar
    rw [hsame]
    exact offers_of_source hin hbar
  · have hspares : Spares ⟨row, col⟩ t.editor [] := trivial
    show (t.editor.after []).Offers row col s.editor.bar
    exact offers_after_apply hactive hin happly hspares

/-- Makes a cell active, puts a text into the formula bar and applies it. -/
def type (row col : Int) (text : String) : Edit (Option Cell) := do
  selectCell row col
  setBar text
  Editor.apply

/-- The session with a cell active and a text in the formula bar. -/
def entering (s : Session) (row col : Int) (text : String) : Session :=
  { s with editor := { s.editor with
    selection := s.editor.selection.click ⟨row, col⟩
    bar := text } }

theorem type_apply {row col : Int} (hin : s.editor.grid.InBounds row col) (text : String) :
    type row col text s = Editor.apply (entering s row col text) := by
  rw [type, Action.bind_apply, selectCell_apply, if_pos hin]
  rfl

/-- **A text that is typed into a cell stays there.**  Typing fails only if the text is a formula
whose evaluation is interrupted, and otherwise it changes no other cell.  From then on, selecting
the cell puts exactly the text into the formula bar again, whatever else is done that neither is
aimed at the cell nor takes other contents for the grid, and whether it returns or fails.  And
applying what the bar shows when a cell is selected never changes what it shows, whatever value and
formula there is. -/
theorem typed_text_stays {s : Session} {row col : Int} (hin : s.editor.grid.InBounds row col) :
    (∀ text,
      ((∃ c t, type row col text s = (.ok c, t)) ↔
        IsEvaluable s.editor.registry s.editor.grid text) ∧
      ∀ c t, type row col text s = (.ok c, t) →
        (t.editor.grid.rows = s.editor.grid.rows ∧ t.editor.grid.cols = s.editor.grid.cols ∧
          ∀ i j : Nat, (⟨i, j⟩ : CellRef) ≠ ⟨row, col⟩ →
            t.editor.grid.cellAt i j = s.editor.grid.cellAt i j) ∧
        ∀ steps, Spares ⟨row, col⟩ t.editor steps →
          (t.editor.after steps).Offers row col text) ∧
    ∃ u, selectCell row col s = (.ok (), u) ∧
      (Editor.apply u).2.editor.Offers row col u.editor.bar := by
  obtain ⟨i, j, hplace, _, _⟩ : ∃ i j : Nat, (⟨row, col⟩ : CellRef) = ⟨i, j⟩ ∧
      i < s.editor.grid.rows ∧ j < s.editor.grid.cols := hin.exists_nat
  obtain ⟨rfl, rfl⟩ := CellRef.mk.inj hplace
  refine ⟨fun text => ?_, ?_⟩
  · rw [type_apply hin]
    have hactive : (entering s i j text).editor.selection.active = some ⟨i, j⟩ := rfl
    refine ⟨apply_returns_iff hactive hin, fun c t happly => ⟨?_, fun steps hspares => ?_⟩⟩
    · have hkeeps := keeps_apply (entering s i j text)
      rw [happly] at hkeeps
      refine ⟨hkeeps.rows, hkeeps.cols, fun r k hne => ?_⟩
      exact cellAt_of_apply (s := entering s i j text) hactive happly hne
    · exact offers_after_apply hactive hin happly hspares
  · rw [selectCell_apply, if_pos hin]
    exact ⟨_, rfl, offers_apply_of_bar rfl hin rfl⟩

/-- An editor whose first cell has a formula without an equals sign. -/
def unmarked : Session where
  editor := { small with grid := small.grid.put 0 0 ⟨"7", "SUM(A1:B1)"⟩ }
  host := ⟨.memory {}, [], .least⟩

/-- A recalculation, a number beside the first cell, a selection there, and a save. -/
def passingSteps : List (Host × Operation) :=
  let host : Host := ⟨.memory {}, [], .least⟩
  [(host, .recalculate), (host, .setLiteral 0 1 "5"), (host, .selectCell 0 1), (host, .save)]

/-- Another formula can be typed into the first cell, although it has no range, and what was there
before can be applied again. -/
theorem typed_text_stays_unmarked :
    (∃ c t, type 0 0 "=SUM(A1)" unmarked = (.ok c, t) ∧
      (t.editor.after passingSteps).Offers 0 0 "=SUM(A1)") ∧
    ∃ u, selectCell 0 0 unmarked = (.ok (), u) ∧ u.editor.bar = "SUM(A1:B1)" ∧
      (Editor.apply u).2.editor.Offers 0 0 u.editor.bar := by
  have hin : unmarked.editor.grid.InBounds 0 0 := by decide
  obtain ⟨htype, u, hselect, happly⟩ := typed_text_stays hin
  obtain ⟨hreturns, hstays⟩ := htype "=SUM(A1)"
  have hevaluable : IsEvaluable unmarked.editor.registry unmarked.editor.grid "=SUM(A1)" :=
    (Formula.isEvaluable_iff_of_tells Registry.tellsFailures_standard _ _).mpr
      (Formula.isReadable_of_search?_eq_none rfl)
  obtain ⟨c, t, htyped⟩ := hreturns.mpr hevaluable
  have hbar : u.editor.bar = "SUM(A1:B1)" := by
    rw [selectCell_apply, if_pos hin] at hselect
    cases hselect
    rfl
  refine ⟨⟨c, t, htyped, (hstays c t htyped).2 passingSteps ?_⟩, u, hselect, hbar, happly⟩
  refine ⟨nofun, ?_, nofun, nofun, trivial⟩
  simp [Operation.Replaces]

end Editor

end Spreadsheet

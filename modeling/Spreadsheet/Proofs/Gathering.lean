import Spreadsheet.Proofs.Cells
import Spreadsheet.Proofs.Naming

/-!
The numbers of a range.

Whether all cells of a range can be read is decided at its second corner
(`Formula.exists_rangeValues_iff`), and the number of a cell stands in the list where the cell
stands in the range (`Formula.getElem_rangeValues`).  If the range leaves the grid, the first cell
that does so is named, and `Range.firstOutside` says which one it is.  A range is never empty, so an
average is never asked for without numbers (`Formula.compute_average`).
-/

namespace Spreadsheet

open Number (ofText)

namespace Range

/-- The cells of the range have rows that are counted from zero, and columns with a letter. -/
structure IsLettered (r : Range) : Prop where
  row : 0 ≤ r.topLeft.row
  col : 0 ≤ r.topLeft.col
  last : r.bottomRight.col < maxCols

/-- Cells that can be read by their names have such rows and columns. -/
theorem isLettered_of_corners {r : Range} {first last : String}
    (hfirst : CellRef.read first = .ok r.topLeft) (hlast : CellRef.read last = .ok r.bottomRight) :
    r.IsLettered := by
  obtain ⟨⟨_, _, hzero⟩, htop⟩ := (CellRef.read_eq_ok_iff _ _).mp hfirst
  obtain ⟨⟨hcorner, _⟩, hbottom⟩ := (CellRef.read_eq_ok_iff _ _).mp hlast
  obtain ⟨letter, digits, htext, hletter, _⟩ := hcorner
  have hcol := columnOf_lt hletter
  refine ⟨?_, ?_, ?_⟩
  · rw [htop, cornerRef]
    dsimp only
    omega
  · rw [htop, cornerRef]
    exact Int.natCast_nonneg _
  · rw [hbottom, cornerRef, htext, columnNumber, List.headD_cons]
    exact Int.ofNat_lt.mpr hcol

/-- Whatever is read as a range is of this form. -/
theorem isLettered_of_read {text : String} {r : Range} (h : read text = .ok r) : r.IsLettered := by
  obtain ⟨first, last, _, ⟨hfirst, htop⟩, hlast, hbottom⟩ := exists_split_of_read h
  rw [← String.toList_ofList (l := first)] at hfirst htop
  rw [← String.toList_ofList (l := last)] at hlast hbottom
  exact isLettered_of_corners ((CellRef.read_eq_ok_iff _ _).mpr ⟨hfirst, htop⟩)
    ((CellRef.read_eq_ok_iff _ _).mpr ⟨hlast, hbottom⟩)

theorem isLettered_of_ofJson {first last : Json} {r : Range} (h : ofJson first last = .ok r) :
    r.IsLettered := by
  cases first with
  | string first =>
    cases last with
    | string last =>
      have hcorners : readCorners first last = .ok r := h
      obtain ⟨hfirst, hlast⟩ := (readCorners_eq_ok_iff_read first last r).mp hcorners
      exact isLettered_of_corners hfirst hlast
    | _ =>
      exfalso
      rw [ofJson, CellRef.ofJson] at h
      cases hread : CellRef.read first with
      | error e =>
        rw [hread] at h
        cases h
      | ok a =>
        rw [hread] at h
        cases h
  | _ => cases h

/-- What a search finds is of this form. -/
theorem isLettered_of_find {text : String} {r : Range} (h : find text = .ok (some r)) :
    r.IsLettered := by
  rw [find] at h
  split at h
  · cases h
  · next first last _ =>
    cases hcorners : readCorners (String.ofList first) (String.ofList last) with
    | error e =>
      rw [hcorners] at h
      cases h
    | ok r' =>
      rw [hcorners] at h
      cases h
      obtain ⟨hfirst, hlast⟩ := (readCorners_eq_ok_iff_read _ _ _).mp hcorners
      exact isLettered_of_corners hfirst hlast

/-- The first cell of a range that leaves the grid.  It is the first corner if that lies outside, or
else the first row leaves the grid on the right, or else the rows leave it at its end. -/
def firstOutside (g : Grid) (r : Range) : CellRef :=
  if ¬g.InBounds r.topLeft.row r.topLeft.col then r.topLeft
  else if (g.cols : Int) ≤ r.bottomRight.col then ⟨r.topLeft.row, g.cols⟩
  else ⟨g.rows, r.topLeft.col⟩

/-- This cell has a name. -/
theorem exists_toA1_firstOutside (g : Grid) {r : Range} (hr : r.IsLettered) :
    ∃ name, (r.firstOutside g).toA1 = .ok name := by
  have hcol := hr.col
  have hcols := r.col_le
  have hlast := hr.last
  have hletter : 0 ≤ (r.firstOutside g).col ∧ (r.firstOutside g).col < maxCols := by
    unfold firstOutside
    split
    · omega
    · split
      · dsimp only
        omega
      · dsimp only
        omega
  rw [CellRef.toA1, columnLetter, if_pos hletter]
  exact ⟨_, rfl⟩

end Range

namespace Grid

/-- The cell of the range lies outside of the grid, and all cells before it lie in the grid. -/
structure IsFirstOutside (g : Grid) (r : Range) (ref : CellRef) : Prop where
  mem : ref ∈ r
  outside : ¬g.InBounds ref.row ref.col
  first : ∀ other ∈ r, other < ref → g.InBounds other.row other.col

variable {g : Grid} {r : Range}

/-- There is at most one such cell. -/
theorem IsFirstOutside.unique {ref ref' : CellRef} (h : g.IsFirstOutside r ref)
    (h' : g.IsFirstOutside r ref') : ref = ref' := by
  have hnot : ¬ref < ref' := fun hlt => h.outside (h'.first ref h.mem hlt)
  have hnot' : ¬ref' < ref := fun hlt => h'.outside (h.first ref' h'.mem hlt)
  obtain ⟨row, col⟩ := ref
  obtain ⟨row', col'⟩ := ref'
  rw [CellRef.lt_iff] at hnot hnot'
  rw [CellRef.mk.injEq]
  dsimp only at hnot hnot'
  omega

/-- If the second corner lies in the grid, the whole range does. -/
theorem inBounds_of_mem (hr : r.IsLettered)
    (hlast : g.InBounds r.bottomRight.row r.bottomRight.col) {ref : CellRef} (h : ref ∈ r) :
    g.InBounds ref.row ref.col := by
  have hrow := hr.row
  have hcol := hr.col
  rw [Range.mem_iff] at h
  rw [InBounds] at hlast ⊢
  omega

/-- If the second corner lies outside, there is a first cell that does, and it is the one that is
told. -/
theorem isFirstOutside_firstOutside (hr : r.IsLettered)
    (hlast : ¬g.InBounds r.bottomRight.row r.bottomRight.col) :
    g.IsFirstOutside r (r.firstOutside g) := by
  have hrow := hr.row
  have hcol := hr.col
  have hrows := r.row_le
  have hcols := r.col_le
  unfold Range.firstOutside
  rw [InBounds] at hlast
  split
  · -- the first corner
    next houtside =>
    refine ⟨(Range.mem_iff _ r).mpr (by omega), houtside, fun other hmem hlt => ?_⟩
    rw [Range.mem_iff] at hmem
    rw [CellRef.lt_iff] at hlt
    omega
  · next hinside =>
    rw [not_not, InBounds] at hinside
    split
    · -- the end of a row of the grid
      refine ⟨(Range.mem_iff _ r).mpr ?_, ?_, fun other hmem hlt => ?_⟩
      · dsimp only
        omega
      · rw [InBounds]
        dsimp only
        omega
      · rw [Range.mem_iff] at hmem
        rw [CellRef.lt_iff] at hlt
        rw [InBounds]
        dsimp only at hlt
        omega
    · -- the end of the rows
      refine ⟨(Range.mem_iff _ r).mpr ?_, ?_, fun other hmem hlt => ?_⟩
      · dsimp only
        omega
      · rw [InBounds]
        dsimp only
        omega
      · rw [Range.mem_iff] at hmem
        rw [CellRef.lt_iff] at hlt
        rw [InBounds]
        dsimp only at hlt
        omega

end Grid

namespace Formula

variable {g : Grid} {r : Range}

/-- The cell that is named is the first one outside of the grid. -/
theorem rangeValues_eq_error_iff (e : FormulaError) :
    rangeValues g r = .error e ↔ ∃ ref, e = .outsideGrid ref ∧ g.IsFirstOutside r ref := by
  have hfirst : ∀ e', rangeValues g r = .error e' →
      ∃ ref, e' = .outsideGrid ref ∧ g.IsFirstOutside r ref := by
    intro e' h
    obtain ⟨before, ref, after, hcells, hbefore, href⟩ := exists_split_of_mapM_eq_error h
    obtain ⟨rfl, hout⟩ := numberAt_eq_error href
    refine ⟨ref, rfl, ?_, hout, fun other hmem hlt => ?_⟩
    · rw [← Range.mem_cells_iff, hcells]
      exact List.mem_append_right before List.mem_cons_self
    · obtain ⟨x, hx⟩ := hbefore other ((Range.mem_before_iff hcells other).mpr ⟨hmem, hlt⟩)
      exact numberAt_eq_ok hx
  constructor
  · exact hfirst e
  · rintro ⟨ref, rfl, h⟩
    cases hvalues : rangeValues g r with
    | ok values => exact absurd (inBounds_of_rangeValues hvalues h.mem) h.outside
    | error e' =>
      obtain ⟨ref', rfl, h'⟩ := hfirst e' hvalues
      rw [h.unique h']

/-- A range can be read exactly if its second corner lies in the grid. -/
theorem exists_rangeValues_iff (hr : r.IsLettered) :
    (∃ values, rangeValues g r = .ok values) ↔
      g.InBounds r.bottomRight.row r.bottomRight.col := by
  constructor
  · rintro ⟨values, hvalues⟩
    exact inBounds_of_rangeValues hvalues r.bottomRight_mem
  · intro hlast
    exact ⟨_, rangeValues_of_inBounds fun ref href => Grid.inBounds_of_mem hr hlast href⟩

/-- There are as many numbers as cells, and so there is at least one. -/
theorem length_rangeValues {values : List Float} (h : rangeValues g r = .ok values) :
    values.length = r.rows * r.cols ∧ 1 ≤ values.length := by
  have hlength : values.length = r.rows * r.cols := by
    rw [length_of_mapM_eq_ok h, r.length_cells]
  refine ⟨hlength, ?_⟩
  rw [hlength]
  exact Nat.mul_pos r.rows_pos r.cols_pos

/-- The place of a number in the list tells the row and the column of its cell. -/
theorem getElem_rangeValues {values : List Float} (h : rangeValues g r = .ok values) {i : Nat}
    (hi : i < values.length) :
    ∃ cell, g.get (r.topLeft.row + (i / r.cols : Nat)) (r.topLeft.col + (i % r.cols : Nat)) =
        .ok cell ∧ values[i] = ofText cell.value := by
  have hin := fun ref (href : ref ∈ r) => inBounds_of_rangeValues h href
  rw [rangeValues_of_inBounds hin, Except.ok.injEq, Range.cells_eq_map, List.map_map] at h
  subst h
  have hcell : (⟨r.topLeft.row + (i / r.cols : Nat), r.topLeft.col + (i % r.cols : Nat)⟩ : CellRef)
      ∈ r := by
    rw [← Range.mem_cells_iff, Range.cells_eq_map]
    rw [List.length_map, List.length_range] at hi
    exact List.mem_map.mpr ⟨i, List.mem_range.mpr hi, rfl⟩
  refine ⟨_, if_pos (hin _ hcell), ?_⟩
  rw [List.getElem_map, List.getElem_range]
  rfl

/-- If the second corner lies outside of the grid, the first such cell is named. -/
theorem rangeValues_of_outside (hr : r.IsLettered)
    (hlast : ¬g.InBounds r.bottomRight.row r.bottomRight.col) :
    rangeValues g r = .error (.outsideGrid (r.firstOutside g)) :=
  (rangeValues_eq_error_iff _).mpr ⟨_, rfl, Grid.isFirstOutside_firstOutside hr hlast⟩

theorem message_outsideGrid {ref : CellRef} {name : String} (h : ref.toA1 = .ok name) :
    (FormulaError.outsideGrid ref).message = name ++ " is outside the grid" := by
  have hlabel : ref.label = name := by rw [CellRef.label, h]
  have hmessage : (FormulaError.outsideGrid ref).message =
      toString ref.label ++ toString " is outside the grid" := rfl
  rw [hmessage, hlabel]
  rfl

theorem rangeOf_ne_raised (formula : String) (kind : ErrorKind) (message : String) :
    rangeOf formula ≠ .error (.raised kind message) := by
  intro h
  rw [rangeOf] at h
  split at h
  · cases h
  · cases h
  · cases h

/-- The average of one number or more. -/
theorem applyReducer_average (name : String) {values : List Float} (h : 1 ≤ values.length) :
    applyReducer name Reducer.average values =
      .ok (Reducer.sumOf values / Float.ofNat values.length) := by
  have hne : ¬values.isEmpty = true := by
    rw [List.isEmpty_iff_length_eq_zero]
    omega
  rw [applyReducer, Reducer.call_average, if_neg hne]
  rfl

/-- An average that is called has numbers, so its answer is their sum divided by their count. -/
theorem compute_average {registry : Registry} {formula name : String} (g : Grid)
    (h : registry.called? formula = some (name, Reducer.average)) :
    compute registry g formula = (rangeOf formula >>= rangeValues g).map fun values =>
      Reducer.sumOf values / Float.ofNat values.length := by
  rw [compute]
  cases rangeOf formula with
  | error e => rfl
  | ok r =>
    simp only [bind, Except.bind]
    cases hvalues : rangeValues g r with
    | error e => rfl
    | ok values =>
      simp only [applyCalled, h]
      exact applyReducer_average name (length_rangeValues hvalues).2

/-- **The numbers of a range stand in the order of its cells.**  Every range that is read from a
text, found in one or read from two corners has rows counted from zero and columns with a letter.
Such a range can be read exactly if its second corner lies in the grid.  Then there is one number
for each cell, and at least one, and the place of a number tells the row and the column of its cell
by division.  Otherwise the evaluation fails, and the failure names the first cell outside of the
grid, row by row.  So an average that is called is that of one number or more: it fails only if
there is no range or the range cannot be read, and never for want of numbers. -/
theorem rangeValues_row_major :
    (∀ r : Range, (∃ text, Range.read text = .ok r) ∨ (∃ text, Range.find text = .ok (some r)) ∨
      (∃ first last, Range.ofJson first last = .ok r) → r.IsLettered) ∧
    (∀ (g : Grid) (r : Range), r.IsLettered →
      ((∃ values, rangeValues g r = .ok values) ↔
        g.InBounds r.bottomRight.row r.bottomRight.col) ∧
      (∀ values, rangeValues g r = .ok values →
        (values.length = r.rows * r.cols ∧ 1 ≤ values.length) ∧
        ∀ (i : Nat) (hi : i < values.length), ∃ cell,
          g.get (r.topLeft.row + (i / r.cols : Nat)) (r.topLeft.col + (i % r.cols : Nat)) =
            .ok cell ∧ values[i] = ofText cell.value) ∧
      (¬g.InBounds r.bottomRight.row r.bottomRight.col →
        rangeValues g r = .error (.outsideGrid (r.firstOutside g)) ∧
        g.IsFirstOutside r (r.firstOutside g) ∧
        ∃ name, (r.firstOutside g).toA1 = .ok name ∧
          (FormulaError.outsideGrid (r.firstOutside g)).kind = .evaluation ∧
          (FormulaError.outsideGrid (r.firstOutside g)).message =
            name ++ " is outside the grid")) ∧
    ∀ (registry : Registry) (g : Grid) (formula name : String),
      registry.called? formula = some (name, Reducer.average) →
      (compute registry g formula = (rangeOf formula >>= rangeValues g).map fun values =>
        Reducer.sumOf values / Float.ofNat values.length) ∧
      ∀ kind message, compute registry g formula ≠ .error (.raised kind message) := by
  refine ⟨?_, ?_, ?_⟩
  · rintro r (⟨text, hread⟩ | ⟨text, hfind⟩ | ⟨first, last, hread⟩)
    · exact Range.isLettered_of_read hread
    · exact Range.isLettered_of_find hfind
    · exact Range.isLettered_of_ofJson hread
  · intro g r hr
    refine ⟨exists_rangeValues_iff hr, fun values hvalues => ?_, fun hlast => ?_⟩
    · exact ⟨length_rangeValues hvalues, fun i hi => getElem_rangeValues hvalues hi⟩
    · obtain ⟨name, hname⟩ := Range.exists_toA1_firstOutside g hr
      exact ⟨rangeValues_of_outside hr hlast, Grid.isFirstOutside_firstOutside hr hlast, name,
        hname, rfl, message_outsideGrid hname⟩
  · intro registry g formula name hcalled
    have hcompute := compute_average g hcalled
    refine ⟨hcompute, fun kind message hraised => ?_⟩
    rw [hcompute] at hraised
    -- Neither the look for a range nor its reading fails in this way.
    cases hrange : rangeOf formula with
    | error e =>
      rw [hrange] at hraised
      cases hraised
      exact rangeOf_ne_raised formula kind message hrange
    | ok r =>
      rw [hrange] at hraised
      cases hvalues : rangeValues g r with
      | error e =>
        obtain ⟨ref, _, rfl⟩ := rangeValues_eq_error hvalues
        simp [bind, Except.bind, hvalues, Except.map] at hraised
      | ok values => simp [bind, Except.bind, hvalues, Except.map] at hraised

/-- In a grid of three rows and two columns, the range A2:B3 can be read and averaged, and A2:C4
leaves the grid at C2, although its last row lies outside too. -/
theorem rangeValues_row_major_leaving :
    ∃ g, Grid.new 3 2 = .ok g ∧
      (∃ r values, Range.read "A2:B3" = .ok r ∧ rangeValues g r = .ok values ∧
        values.length = 4) ∧
      (∃ r, Range.read "A2:C4" = .ok r ∧ rangeValues g r = .error (.outsideGrid ⟨1, 2⟩)) ∧
      ∀ kind message,
        compute Registry.standard g "=AVERAGE(A2:B3)" ≠ .error (.raised kind message) := by
  obtain ⟨hread, hvalues, haverage⟩ := rangeValues_row_major
  let g := Grid.blank 3 2 (by decide) (by decide) (by decide)
  have hinside : Range.read "A2:B3" = .ok ⟨⟨1, 0⟩, ⟨2, 1⟩, by decide, by decide⟩ := by decide
  have hleaving : Range.read "A2:C4" = .ok ⟨⟨1, 0⟩, ⟨3, 2⟩, by decide, by decide⟩ := by decide
  have hcalled : Registry.standard.called? "=AVERAGE(A2:B3)" =
      some ("AVERAGE", Reducer.average) :=
    (Registry.called?_eq_some_iff _ _ _ _).mpr ⟨by decide, rfl, by decide⟩
  refine ⟨g, rfl, ?_, ?_, (haverage Registry.standard g _ _ hcalled).2⟩
  · obtain ⟨hin, hlist, _⟩ := hvalues g _ (hread _ (.inl ⟨_, hinside⟩))
    obtain ⟨values, hok⟩ := hin.mpr (by decide)
    exact ⟨_, values, hinside, hok, (hlist values hok).1.1⟩
  · obtain ⟨_, _, hout⟩ := hvalues g _ (hread _ (.inl ⟨_, hleaving⟩))
    exact ⟨_, hleaving, (hout (by decide)).1⟩

end Formula

end Spreadsheet

import Spreadsheet.Proofs.Cells
import Spreadsheet.Proofs.Dispatch
import Spreadsheet.Proofs.Search

/-!
What a formula shows.

A formula can go wrong in many ways, and there are two words for all of them.  `Verdict` says which
one is shown when, in the order in which things are found out: first the range and its corners, then
the grid, then the name of the function (`Applied`), and last what it makes of the numbers.  The
cases leave nothing out (`verdict_or_letsOut`) but a reducer whose failure cannot be told: that
interrupts the evaluation, and nothing is shown.  In each case the computation comes to just this
(`Verdict.shown?_eq`).  So `evaluate_shows_verdict` says exactly what an evaluation shows.
-/

namespace Spreadsheet

open Formula (IsLong)
open Number (maxDigits digitsValue)

/-- The row of a corner, counted from one. -/
def rowNumber (corner : List Char) : Nat :=
  digitsValue (rowDigits corner)

/-- The column of a corner, counted from zero. -/
def columnNumber (corner : List Char) : Nat :=
  columnOf (corner.headD 'A')

/-- The first piece of a text that has the form of a range reference has these corners. -/
def IsFirstRange (text : String) (first last : List Char) : Prop :=
  IsCorner first ∧ IsCorner last ∧ ∃ before after,
    text.toList = before ++ (first ++ ':' :: last) ++ after ∧
      Range.IsFirst before (first ++ ':' :: last) after

/-- The corners make no range: a row is zero, or the second corner precedes the first. -/
def IsRefused (first last : List Char) : Prop :=
  rowNumber first = 0 ∨ rowNumber last = 0 ∨ rowNumber last < rowNumber first ∨
    columnNumber last < columnNumber first

instance (first last : List Char) : Decidable (IsRefused first last) :=
  inferInstanceAs (Decidable (_ ∨ _))

/-- A corner lies in the grid. -/
def Grid.Reaches (g : Grid) (corner : List Char) : Prop :=
  rowNumber corner ≤ g.rows ∧ columnNumber corner < g.cols

instance (g : Grid) (corner : List Char) : Decidable (g.Reaches corner) :=
  inferInstanceAs (Decidable (_ ∧ _))

/-- The numbers in the cells between two corners, row by row. -/
def Grid.numbersBetween (g : Grid) (first last : List Char) : List Float :=
  (List.range' (rowNumber first - 1) (rowNumber last + 1 - rowNumber first)).flatMap fun row =>
    (List.range' (columnNumber first) (columnNumber last + 1 - columnNumber first)).map fun col =>
      Number.ofText (g.cellAt row col).value

theorem isFirstRange_iff (text : String) (first last : List Char) :
    IsFirstRange text first last ↔ Range.search? text.toList = some (first, last) := by
  constructor
  · rintro ⟨hfirst, hlast, before, after, htext, hpiece⟩
    obtain ⟨first', last', hfirst', hlast', heq, hsearch⟩ := Range.search?_of_isFirst hpiece
    obtain ⟨rfl, rfl⟩ :=
      append_cons_inj hfirst'.not_mem_colon hlast'.not_mem_colon heq
    rw [htext]
    exact hsearch
  · intro hsearch
    obtain ⟨hfirst, hlast⟩ := Range.isCorner_of_search? hsearch
    exact ⟨hfirst, hlast, Range.isFirst_of_search? hsearch⟩

namespace Range

variable {first last : List Char}

/-- The corners of the range, in numbers. -/
def HasCorners (r : Range) (first last : List Char) : Prop :=
  r.topLeft = ⟨rowNumber first - 1, columnNumber first⟩ ∧
    r.bottomRight = ⟨rowNumber last - 1, columnNumber last⟩

theorem between_eq_ok_iff (firstText lastText : String) (a b : CellRef) (r : Range) :
    between firstText lastText a b = .ok r ↔
      (a.row ≤ b.row ∧ a.col ≤ b.col) ∧ r.topLeft = a ∧ r.bottomRight = b := by
  rw [between, ofCorners]
  by_cases h : a.row ≤ b.row ∧ a.col ≤ b.col
  · rw [dif_pos h]
    constructor
    · intro heq
      cases heq
      exact ⟨h, rfl, rfl⟩
    · rintro ⟨_, rfl, rfl⟩
      rfl
  · rw [dif_neg h]
    constructor
    · intro heq
      cases heq
    · intro hcorners
      exact absurd hcorners.1 h

/-- Corners are read as a range exactly if no row number is too long and they are not refused. -/
theorem readCorners_eq_ok_iff (hfirst : IsCorner first) (hlast : IsCorner last) (r : Range) :
    readCorners (String.ofList first) (String.ofList last) = .ok r ↔
      (¬IsLong first ∧ ¬IsLong last) ∧ ¬IsRefused first last ∧ r.HasCorners first last := by
  rw [readCorners, CellRef.read_corner hfirst, CellRef.read_corner hlast]
  by_cases hlong : maxDigits < (rowDigits first).length
  · simp [IsLong, hlong, bind, Except.bind]
  by_cases hzero : digitsValue (rowDigits first) = 0
  · simp [IsLong, hlong, IsRefused, rowNumber, hzero, bind, Except.bind]
  by_cases hlong' : maxDigits < (rowDigits last).length
  · simp [IsLong, hlong, hzero, hlong', bind, Except.bind]
  by_cases hzero' : digitsValue (rowDigits last) = 0
  · simp [IsLong, hlong, IsRefused, rowNumber, hzero, hlong', hzero', bind, Except.bind]
  -- Both corners can be read, and it is their order that counts.
  have hproper : ¬IsRefused first last ↔
      ((rowNumber first : Int) - 1 ≤ rowNumber last - 1 ∧
        (columnNumber first : Int) ≤ columnNumber last) := by
    simp only [IsRefused, rowNumber, hzero, hzero', false_or]
    omega
  rw [if_neg hlong, if_neg hzero, if_neg hlong', if_neg hzero', hproper]
  refine (between_eq_ok_iff _ _ _ _ r).trans ?_
  exact (and_iff_right ⟨hlong, hlong'⟩).symm

end Range

namespace Formula

variable {registry : Registry} {g : Grid} {text : String} {first last : List Char}

/-! ### The numbers of a range -/

/-- The cells of a range with these corners hold the numbers between them. -/
theorem numbersBetween_eq (g : Grid) {r : Range} (hproper : ¬IsRefused first last)
    (hcorners : r.HasCorners first last) :
    r.cells.map (fun ref => Number.ofText (g.cellAt ref.row.toNat ref.col.toNat).value) =
      g.numbersBetween first last := by
  obtain ⟨htop, hbottom⟩ := hcorners
  have hpos : 0 < rowNumber first := Nat.pos_of_ne_zero fun hzero => hproper (.inl hzero)
  have hrows : r.rows = rowNumber last + 1 - rowNumber first := by
    rw [Range.rows, htop, hbottom]
    dsimp only
    omega
  have hcols : r.cols = columnNumber last + 1 - columnNumber first := by
    rw [Range.cols, htop, hbottom]
    dsimp only
    omega
  have hrow : ∀ i : Nat, ((rowNumber first : Int) - 1 + i).toNat = rowNumber first - 1 + i := by
    intro i
    omega
  have hcol : ∀ j : Nat, ((columnNumber first : Int) + j).toNat = columnNumber first + j := by
    intro j
    omega
  simp only [Range.cells, Grid.numbersBetween, hrows, hcols, htop, List.range'_eq_map_range,
    List.map_flatMap, List.flatMap_map, List.map_map, Function.comp_def, hrow, hcol]

/-- If the second corner is in the grid, so is the whole range. -/
theorem rangeValues_of_reaches {r : Range} (hproper : ¬IsRefused first last) (hin : g.Reaches last)
    (hcorners : r.HasCorners first last) :
    rangeValues g r = .ok (g.numbersBetween first last) := by
  have hbounds : ∀ ref ∈ r, g.InBounds ref.row ref.col := by
    rintro ref ⟨⟨hrow, hrow'⟩, hcol, hcol'⟩
    rw [hcorners.1] at hrow hcol
    rw [hcorners.2] at hrow' hcol'
    dsimp only at hrow hrow' hcol hcol'
    have hpos : rowNumber first ≠ 0 := fun hzero => hproper (.inl hzero)
    obtain ⟨hrows, hcols⟩ := hin
    rw [Grid.InBounds]
    omega
  rw [rangeValues_of_inBounds hbounds, numbersBetween_eq g hproper hcorners]

/-- A range whose second corner is not in the grid cannot be read. -/
theorem rangeValues_of_not_reaches {r : Range} (hout : ¬g.Reaches last)
    (hcorners : r.HasCorners first last) :
    ∃ ref, rangeValues g r = .error (.outsideGrid ref) := by
  cases hvalues : rangeValues g r with
  | error e =>
    obtain ⟨ref, _, rfl⟩ := rangeValues_eq_error hvalues
    exact ⟨ref, rfl⟩
  | ok values =>
    -- The second corner would have been read too.
    have hbounds := inBounds_of_rangeValues hvalues r.bottomRight_mem
    rw [hcorners.2, Grid.InBounds] at hbounds
    dsimp only at hbounds
    refine absurd ⟨?_, ?_⟩ hout
    · omega
    · omega

/-! ### What is shown -/

/-- The failure is that a formula is not supported: it says so itself, or this is what went wrong
while it was told. -/
def ReducerError.IsUnsupported : ReducerError → Prop
  | .formula kind _ | .untold _ (.formula kind _) => kind = .unsupported
  | _ => False

/-- What a formula shows when a function is to be applied to numbers.  The reducer is called, and
its answer made a number; either may fail. -/
inductive Applied (registry : Registry) (text : String) (values : List Float) : String → Prop where
  | unknown (hunknown : ∀ name ∈ registry.names, ¬Registry.Calls text name) :
    Applied registry text values "INVALID"
  | unsupported {name : String} {reducer : Reducer} {e : ReducerError}
    (hcalls : registry.CallsLongest text name reducer) (hfails : reducer.call values = .error e)
    (hunsupported : e.IsUnsupported) : Applied registry text values "INVALID"
  | failed {name : String} {reducer : Reducer} {e : ReducerError}
    (hcalls : registry.CallsLongest text name reducer) (hfails : reducer.call values = .error e)
    (hother : ¬e.IsUnsupported) (htold : ∀ failure, ¬e.Escapes failure) :
    Applied registry text values "ERROR"
  | number {name : String} {reducer : Reducer} {x : Float}
    (hcalls : registry.CallsLongest text name reducer) (hanswers : reducer.call values = .ok x) :
    Applied registry text values (Number.display x)

/-- What a formula shows. -/
inductive Verdict (registry : Registry) (g : Grid) (text : String) : String → Prop where
  | noRange (hnone : ∀ found, found <:+: text.toList → ¬IsRangeText found) :
    Verdict registry g text "INVALID"
  | badCorners {first last : List Char} (hrange : IsFirstRange text first last)
    (hrefused : IsRefused first last) : Verdict registry g text "ERROR"
  | outside {first last : List Char} (hrange : IsFirstRange text first last)
    (hproper : ¬IsRefused first last) (hout : ¬g.Reaches last) : Verdict registry g text "ERROR"
  | applied {first last : List Char} {shown : String} (hrange : IsFirstRange text first last)
    (hproper : ¬IsRefused first last) (hin : g.Reaches last)
    (happlied : Applied registry text (g.numbersBetween first last) shown) :
    Verdict registry g text shown

/-- Something is shown when a function is to be applied, unless its failure gets out. -/
theorem applied_or_escapes (registry : Registry) (text : String) (values : List Float) :
    (∃ shown, Applied registry text values shown) ∨
      ∃ name reducer e failure, registry.called? text = some (name, reducer) ∧
        reducer.call values = .error e ∧ e.Escapes failure := by
  cases hcalled : registry.called? text with
  | none => exact .inl ⟨_, .unknown ((registry.called?_eq_none_iff text).mp hcalled)⟩
  | some entry =>
    have hcalls := Registry.callsLongest_of_called? hcalled
    cases hcall : entry.2.call values with
    | ok x => exact .inl ⟨_, .number hcalls hcall⟩
    | error e =>
      by_cases hunsupported : e.IsUnsupported
      · exact .inl ⟨_, .unsupported hcalls hcall hunsupported⟩
      · by_cases hescapes : ∃ failure, e.Escapes failure
        · obtain ⟨failure, hescapes⟩ := hescapes
          exact .inr ⟨entry.1, entry.2, e, failure, rfl, hcall, hescapes⟩
        · exact .inl ⟨_, .failed hcalls hcall hunsupported (not_exists.mp hescapes)⟩

/-! ### What a computation shows -/

/-- What is shown for a number or a failure; an interruption is not shown. -/
def shown? : Except FormulaError Float → Option String
  | .ok x => some (Number.display x)
  | .error e =>
    match e.interruption? with
    | some _ => none
    | none => some (Outcome.failure e).display

theorem evaluate_shows_iff (hformula : IsFormula text) (shown : String) :
    (∃ outcome, evaluate registry g text = .ok outcome ∧ outcome.display = shown) ↔
      shown? (compute registry g text) = some shown := by
  rw [evaluate, if_pos hformula]
  cases compute registry g text with
  | ok x => simp [shown?, Outcome.display]
  | error e => cases he : e.interruption? with
    | some i => simp [shown?, he]
    | none => simp [shown?, he]

theorem compute_of_rangeValues {r : Range} {values : List Float} (hrange : rangeOf text = .ok r)
    (hvalues : rangeValues g r = .ok values) :
    compute registry g text = applyCalled registry text values := by
  rw [compute, hrange]
  simp only [bind, Except.bind, hvalues]

theorem applyCalled_of_callsLongest {name : String} {reducer : Reducer}
    (hcalls : registry.CallsLongest text name reducer) (values : List Float) :
    applyCalled registry text values = applyReducer name reducer values := by
  rw [applyCalled, (registry.called?_eq_some_iff _ _ _).mpr hcalls]

/-- The failure of a reducer is shown in the same words as those of the formula itself. -/
theorem shown?_ofReducer_of_isUnsupported (name : String) {e : ReducerError}
    (h : e.IsUnsupported) : shown? (.error (.ofReducer name e)) = some "INVALID" := by
  cases e with
  | formula kind message => exact congrArg some (if_pos h)
  | foreign e => cases h
  | interrupt e => cases h
  | untold kind e =>
    cases e with
    | formula kind' message => exact congrArg some (if_pos h)
    | foreign e | untold kind' e | interrupt e => cases h

theorem shown?_ofReducer_of_not_isUnsupported (name : String) {e : ReducerError}
    (hother : ¬e.IsUnsupported) (htold : ∀ failure, ¬e.Escapes failure) :
    shown? (.error (.ofReducer name e)) = some "ERROR" := by
  cases e with
  | formula kind message => exact congrArg some (if_neg hother)
  | foreign e => rfl
  | interrupt e => exact absurd (.interrupt e) (htold _)
  | untold kind e =>
    cases e with
    | formula kind' message => exact congrArg some (if_neg hother)
    | foreign e | untold kind' e | interrupt e => exact absurd (.untold nofun) (htold _)

theorem Applied.shown?_eq {values : List Float} {shown : String}
    (h : Applied registry text values shown) :
    shown? (applyCalled registry text values) = some shown := by
  cases h with
  | unknown hunknown =>
    rw [applyCalled, (registry.called?_eq_none_iff text).mpr hunknown]
    rfl
  | unsupported hcalls hfails hunsupported =>
    rw [applyCalled_of_callsLongest hcalls, applyReducer, hfails]
    exact shown?_ofReducer_of_isUnsupported _ hunsupported
  | failed hcalls hfails hother htold =>
    rw [applyCalled_of_callsLongest hcalls, applyReducer, hfails]
    exact shown?_ofReducer_of_not_isUnsupported _ hother htold
  | number hcalls hanswers =>
    rw [applyCalled_of_callsLongest hcalls, applyReducer, hanswers]
    rfl

/-- The corners of a formula that can be read make a range if they are not refused. -/
theorem exists_rangeOf (hread : IsReadable text) (hformula : IsFormula text)
    (hrange : IsFirstRange text first last) (hproper : ¬IsRefused first last) :
    ∃ r, rangeOf text = .ok r ∧ r.HasCorners first last := by
  have hsearch := (isFirstRange_iff text first last).mp hrange
  have hstops : ∀ digits, ¬StopsAt first last digits := by
    intro digits hstops
    exact hread ⟨digits, hformula, first, last, hsearch, hstops⟩
  have hshort : ¬IsLong first := fun hlong => hstops _ (.inl ⟨hlong, rfl⟩)
  have hshort' : ¬IsLong last := by
    intro hlong
    exact hstops _ (.inr ⟨hshort, fun hzero => hproper (.inl hzero), hlong, rfl⟩)
  have hle : rowNumber first ≤ rowNumber last ∧ columnNumber first ≤ columnNumber last := by
    rw [IsRefused] at hproper
    omega
  have hrows : (rowNumber first : Int) - 1 ≤ rowNumber last - 1 := by
    omega
  obtain ⟨r, hcorners⟩ : ∃ r : Range, r.HasCorners first last :=
    ⟨⟨_, _, hrows, Int.ofNat_le.mpr hle.2⟩, rfl, rfl⟩
  have hok := (Range.readCorners_eq_ok_iff hrange.1 hrange.2.1 r).mpr
    ⟨⟨hshort, hshort'⟩, hproper, hcorners⟩
  refine ⟨r, ?_, hcorners⟩
  rw [rangeOf, Range.find, hsearch]
  simp only [hok]
  rfl

/-- What the verdict says is shown. -/
theorem Verdict.shown?_eq {shown : String} (h : Verdict registry g text shown)
    (hread : IsReadable text) (hformula : IsFormula text) :
    shown? (compute registry g text) = some shown := by
  cases h with
  | noRange hnone =>
    rw [compute, rangeOf, Range.find, (Range.search?_eq_none_iff text.toList).mpr hnone]
    rfl
  | @badCorners first last hrange hrefused =>
    have hsearch := (isFirstRange_iff text first last).mp hrange
    cases hcorners : Range.readCorners (String.ofList first) (String.ofList last) with
    | ok r =>
      have hok := (Range.readCorners_eq_ok_iff hrange.1 hrange.2.1 r).mp hcorners
      exact absurd hrefused hok.2.1
    | error e =>
      rw [compute, rangeOf, Range.find, hsearch]
      simp only [hcorners]
      cases e with
      | tooManyDigits e =>
        have hstops := (readCorners_eq_tooManyDigits_iff hrange.1 hrange.2.1 e).mp hcorners
        exact absurd ⟨e.digits, hformula, first, last, hsearch, hstops⟩ hread
      | _ => rfl
  | outside hrange hproper hout =>
    obtain ⟨r, hr, hcorners⟩ := exists_rangeOf hread hformula hrange hproper
    obtain ⟨ref, hvalues⟩ := rangeValues_of_not_reaches hout hcorners
    rw [compute, hr]
    simp only [bind, Except.bind, hvalues]
    rfl
  | applied hrange hproper hin happlied =>
    obtain ⟨r, hr, hcorners⟩ := exists_rangeOf hread hformula hrange hproper
    rw [compute_of_rangeValues hr (rangeValues_of_reaches hproper hin hcorners)]
    exact happlied.shown?_eq

/-- The cases leave nothing out but a reducer whose failure gets out of the evaluation. -/
theorem verdict_or_letsOut (registry : Registry) (g : Grid) (hread : IsReadable text)
    (hformula : IsFormula text) :
    (∃ shown, Verdict registry g text shown) ∨ ∃ failure, LetsOut registry g text failure := by
  cases hsearch : Range.search? text.toList with
  | none => exact .inl ⟨_, .noRange ((Range.search?_eq_none_iff text.toList).mp hsearch)⟩
  | some corners =>
    obtain ⟨first, last⟩ := corners
    have hrange := (isFirstRange_iff text first last).mpr hsearch
    by_cases hrefused : IsRefused first last
    · exact .inl ⟨_, .badCorners hrange hrefused⟩
    by_cases hin : g.Reaches last
    · rcases applied_or_escapes registry text (g.numbersBetween first last) with
        ⟨shown, happlied⟩ | ⟨name, reducer, e, failure, hcalled, hcall, hescapes⟩
      · exact .inl ⟨shown, .applied hrange hrefused hin happlied⟩
      · obtain ⟨r, hr, hcorners⟩ := exists_rangeOf hread hformula hrange hrefused
        have hvalues := rangeValues_of_reaches hrefused hin hcorners
        exact .inr ⟨failure, hformula, r, _, name, reducer, e, (rangeOf_eq_ok_iff text r).mp hr,
          hvalues, hcalled, hcall, hescapes⟩
    · exact .inl ⟨_, .outside hrange hrefused hin⟩

end Formula

end Spreadsheet

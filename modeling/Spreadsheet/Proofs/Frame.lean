import Spreadsheet.Frame
import Spreadsheet.Proofs.Dependence
import Spreadsheet.Proofs.Workbook

/-!
What grids and frames make of one another.

A library of frames is taken as its documentation has it (`FrameLibrary.IsLawful`): it keeps the
texts and the shape of a table that a frame is made of, a text is never missing and is its own
string form, and the values of a frame are no more than its shape says.  Nothing is assumed of other
values.

A value is stored as a text (`FrameLibrary.Stores`), the empty one if it is missing and else its
string form, or looking at it fails (`FrameLibrary.Fails`).  Written one after the other, the values
of a frame are put over the cells of a grid, or the first failure ends it all
(`FrameLibrary.putRows_of_mapM_eq_ok`).  So a frame that fits makes a grid which holds at each place
the literal of what is stored for the value there, unless a value fails
(`FrameLibrary.toGrid_cases`).

The frame of a grid has a text at each place of the grid and nowhere else
(`FrameLibrary.valueAt?_ofGrid`).  So it makes any grid that is no smaller, with the texts in the
top left block, and it makes the grid that it came from if that holds no formula
(`FrameLibrary.toGrid_ofGrid_eq_iff`), because formulas come back as literals.  All of this together
is `FrameLibrary.converts_by_place`.
-/

namespace Spreadsheet

open Formula (mapM_cons_eq_ok_iff mapM_cons_eq_error_iff exists_split_of_mapM_eq_error
  exists_of_mapM_eq_ok length_of_mapM_eq_ok)

/-- The refusal is a value error: all of them are, apart from that of a place outside of a grid and
what looking at a value comes to. -/
def FrameError.isValueError : FrameError → Bool
  | .doesNotFit .. => true
  | .grid e => !e.isIndexError
  | .value e => e.kind == "ValueError"

/-- What a frame of sources, or else of values, has for the cell. -/
def Cell.shown (sources : Bool) (c : Cell) : String :=
  if sources then c.source else c.value

namespace Grid

variable {rows cols : Int}

/-- There is an empty grid of every size with a place, if its columns have letters. -/
theorem exists_new (h : 1 ≤ rows ∧ 1 ≤ cols ∧ cols ≤ maxCols) :
    ∃ g, new rows cols = .ok g ∧ g.rows = rows.toNat ∧ g.cols = cols.toNat ∧
      ∀ row col, g.cellAt row col = {} := by
  rw [new, dif_neg (by omega), dif_neg (by omega)]
  exact ⟨_, rfl, rfl, rfl, cellAt_blank _ _ _⟩

theorem size_of_new {g : Grid} (h : new rows cols = .ok g) :
    1 ≤ rows ∧ 1 ≤ cols ∧ cols ≤ maxCols := by
  rw [new] at h
  split at h
  · cases h
  · split at h
    · cases h
    · omega

/-- No formula cells are listed if no cell holds a formula. -/
theorem formulaCells_eq_nil_iff (g : Grid) :
    g.formulaCells = [] ↔
      ∀ row col, row < g.rows → col < g.cols → (g.cellAt row col).formula = "" := by
  constructor
  · intro hnil row col hrow hcol
    refine Decidable.byContradiction fun hformula => ?_
    have hmem := (g.mem_formulaCells_iff _).mpr ⟨row, col, ⟨hrow, hcol⟩, hformula, rfl⟩
    rw [hnil] at hmem
    exact List.not_mem_nil hmem
  · intro hnone
    refine List.eq_nil_iff_forall_not_mem.mpr fun entry hmem => ?_
    obtain ⟨row, col, ⟨hrow, hcol⟩, hformula, -⟩ := (g.mem_formulaCells_iff entry).mp hmem
    exact hformula (hnone row col hrow hcol)

end Grid

section Traversal

variable {ε α β : Type} {f : α → Except ε β} {l : List α} {bs : List β}

/-- The results stand where the members stand. -/
theorem getElem?_of_mapM_eq_ok (h : l.mapM f = .ok bs) (i : Nat) :
    l[i]? = none ∧ bs[i]? = none ∨ ∃ a b, l[i]? = some a ∧ bs[i]? = some b ∧ f a = .ok b := by
  induction l generalizing bs i with
  | nil =>
    cases h
    exact .inl ⟨rfl, rfl⟩
  | cons a l ih =>
    obtain ⟨b, bs', hb, hl, rfl⟩ := mapM_cons_eq_ok_iff.mp h
    cases i with
    | zero => exact .inr ⟨a, b, rfl, rfl, hb⟩
    | succ i => exact ih hl i

end Traversal

namespace FrameLibrary

variable {δ ν : Type} {lib : FrameLibrary δ ν}

/-- What is documented of a library of frames. -/
structure IsLawful (lib : FrameLibrary δ ν) : Prop where
  /-- A frame has the shape of the table that it is made of. -/
  shape_make (t : Frame String) : lib.shape (lib.make t) = (t.height, t.width)
  /-- Texts are kept unchanged. -/
  rows_make (t : Frame String) (h : 0 < t.width) :
    lib.rows (lib.make t) = t.data.map (·.map lib.text)
  /-- Texts are not missing. -/
  isMissing_text (s : String) : lib.isMissing (lib.text s) = .ok false
  /-- A text is its own string form. -/
  form_text (s : String) : lib.form (lib.text s) = .ok s
  /-- There are no more rows than the shape says. -/
  length_rows_le (d : δ) : (lib.rows d).length ≤ (lib.shape d).1
  /-- Each row has as many values as there are columns. -/
  length_values (d : δ) : ∀ values ∈ lib.rows d, values.length = (lib.shape d).2

/-! ### What is stored for a value -/

/-- The text that is stored for a value: nothing if it is missing, and else its string form. -/
def Stores (lib : FrameLibrary δ ν) (v : ν) (text : String) : Prop :=
  lib.isMissing v = .ok true ∧ text = "" ∨ lib.isMissing v = .ok false ∧ lib.form v = .ok text

/-- The value cannot be told to be missing or not, or it is not missing and has no string form. -/
def Fails (lib : FrameLibrary δ ν) (v : ν) (e : ValueFailure) : Prop :=
  lib.isMissing v = .error e ∨ lib.isMissing v = .ok false ∧ lib.form v = .error e

theorem textOf_eq_ok_iff (v : ν) (text : String) : lib.textOf v = .ok text ↔ lib.Stores v text := by
  rw [textOf, Stores]
  rcases lib.isMissing v with e | missing
  · exact ⟨nofun, fun h => by rcases h with ⟨h, _⟩ | ⟨h, _⟩ <;> cases h⟩
  · cases missing with
    | true => simp [bind, Except.bind, pure, Except.pure, eq_comm]
    | false => simp [bind, Except.bind]

theorem textOf_eq_error_iff (v : ν) (e : ValueFailure) :
    lib.textOf v = .error e ↔ lib.Fails v e := by
  rw [textOf, Fails]
  rcases lib.isMissing v with e' | missing
  · simp [bind, Except.bind]
  · cases missing with
    | true => simp [bind, Except.bind, pure, Except.pure]
    | false => simp [bind, Except.bind]

theorem IsLawful.textOf_text (hlib : lib.IsLawful) (s : String) :
    lib.textOf (lib.text s) = .ok s :=
  (textOf_eq_ok_iff _ s).mpr (.inr ⟨hlib.isMissing_text s, hlib.form_text s⟩)

/-! ### Values are written one after the other -/

/-- The literal of a text. -/
def literal (text : String) : Cell :=
  ⟨text, ""⟩

/-- A write at a place of the grid puts its cell there. -/
theorem exists_set {g : Grid} {row col : Nat} (hrow : row < g.rows) (hcol : col < g.cols)
    (c : Cell) :
    ∃ g', g.set row col c = .ok g' ∧
      g.Overlays g' fun r k => if row = r ∧ col = k then some c else none := by
  have hin : g.InBounds row col := by
    unfold Grid.InBounds
    omega
  have hset : g.set row col c = .ok (g.put row col c) := if_pos hin
  have hover := g.overlays_set row col c
  simp only [hset, Except.toOption, Option.getD_some, Int.natCast_inj] at hover
  exact ⟨_, hset, hover⟩

section Writing

variable {g : Grid} {row col : Nat}

/-- The cells that texts make in a row, from a column on. -/
def rowCells (row col : Nat) (texts : List String) (r k : Nat) : Option Cell :=
  if row = r ∧ col ≤ k then texts[k - col]?.map literal else none

theorem rowCells_cons (row col : Nat) (text : String) (texts : List String) (r k : Nat) :
    rowCells row col (text :: texts) r k =
      (rowCells row (col + 1) texts r k).or
        (if row = r ∧ col = k then some (literal text) else none) := by
  unfold rowCells
  by_cases hr : row = r
  · obtain hlt | rfl | hgt := Nat.lt_trichotomy k col
    · simp [hr, show ¬col ≤ k by omega, show ¬col + 1 ≤ k by omega, show ¬col = k by omega]
    · simp [hr, show ¬k + 1 ≤ k by omega]
    · obtain ⟨n, rfl⟩ := Nat.exists_eq_add_of_lt hgt
      have hsub : col + n + 1 - col = n + 1 := by omega
      have hsub' : col + n + 1 - (col + 1) = n := by omega
      simp [hr, hsub, hsub', show ¬col = col + n + 1 by omega, show col ≤ col + n + 1 by omega]
  · simp [hr]

/-- A value that has a text is written, and then the others are. -/
theorem putValues_cons {g₁ : Grid} {v : ν} {values : List ν} {text : String}
    (htext : lib.textOf v = .ok text) (hset : g.set row col (literal text) = .ok g₁) :
    lib.putValues row col (v :: values) g = lib.putValues row (col + 1) values g₁ := by
  rw [putValues, htext]
  change ((g.set row col (literal text)).mapError .grid >>= lib.putValues row (col + 1) values) = _
  rw [hset]
  rfl

/-- Values of which each has a text are put over the cells of a row. -/
theorem putValues_of_mapM_eq_ok {values : List ν} {texts : List String} (hrow : row < g.rows)
    (hcol : col + values.length ≤ g.cols) (h : values.mapM lib.textOf = .ok texts) :
    ∃ g', lib.putValues row col values g = .ok g' ∧ g.Overlays g' (rowCells row col texts) := by
  induction values generalizing col texts g with
  | nil =>
    cases h
    refine ⟨g, rfl, Grid.overlays_self fun r k _ _ => ?_⟩
    simp [rowCells]
  | cons v values ih =>
    obtain ⟨text, texts, htext, hrest, rfl⟩ := mapM_cons_eq_ok_iff.mp h
    rw [List.length_cons] at hcol
    have hplace : col < g.cols := by omega
    -- The first value is put over one place, and the others over the places behind it.
    obtain ⟨g₁, hset, hfirst⟩ := exists_set hrow hplace (literal text)
    obtain ⟨g₂, hput, hover⟩ :=
      ih (hfirst.rows ▸ hrow) (show col + 1 + values.length ≤ g₁.cols by rw [hfirst.cols]; omega)
        hrest
    refine ⟨g₂, ?_, ?_⟩
    · rw [putValues_cons htext hset]
      exact hput
    · rw [show rowCells row col (text :: texts) = _ from
        funext fun r => funext fun k => rowCells_cons row col text texts r k]
      exact hfirst.trans hover

/-- The first value that fails ends the writing. -/
theorem putValues_of_mapM_eq_error {values : List ν} {e : ValueFailure} (hrow : row < g.rows)
    (hcol : col + values.length ≤ g.cols) (h : values.mapM lib.textOf = .error e) :
    lib.putValues row col values g = .error (.value e) := by
  induction values generalizing col g with
  | nil => cases h
  | cons v values ih =>
    rw [List.length_cons] at hcol
    rcases mapM_cons_eq_error_iff.mp h with hv | ⟨text, htext, hrest⟩
    · rw [putValues, hv]
      rfl
    · have hplace : col < g.cols := by omega
      obtain ⟨g₁, hset, hfirst⟩ := exists_set hrow hplace (literal text)
      rw [putValues_cons htext hset]
      exact ih (hfirst.rows ▸ hrow) (by rw [hfirst.cols]; omega) hrest

/-- The cells that rows of texts make, from a row on. -/
def blockCells (row : Nat) (texts : List (List String)) (r k : Nat) : Option Cell :=
  if row ≤ r then (texts[r - row]?.bind (·[k]?)).map literal else none

theorem blockCells_cons (row : Nat) (first : List String) (texts : List (List String))
    (r k : Nat) :
    blockCells row (first :: texts) r k =
      (blockCells (row + 1) texts r k).or (rowCells row 0 first r k) := by
  unfold blockCells rowCells
  obtain hlt | rfl | hgt := Nat.lt_trichotomy r row
  · simp [show ¬row ≤ r by omega, show ¬row + 1 ≤ r by omega, show ¬row = r by omega]
  · simp [show ¬r + 1 ≤ r by omega]
  · obtain ⟨n, rfl⟩ := Nat.exists_eq_add_of_lt hgt
    have hsub : row + n + 1 - row = n + 1 := by omega
    have hsub' : row + n + 1 - (row + 1) = n := by omega
    simp [hsub, hsub', show ¬row = row + n + 1 by omega, show row ≤ row + n + 1 by omega]

/-- Over empty cells, there is a literal everywhere. -/
theorem getD_blockCells_zero (texts : List (List String)) (r k : Nat) :
    (blockCells 0 texts r k).getD {} = literal ((texts[r]?.bind (·[k]?)).getD "") := by
  rw [blockCells, if_pos (Nat.zero_le r), Nat.sub_zero]
  cases texts[r]?.bind (·[k]?) with
  | none => rfl
  | some text => rfl

/-- Rows of values fit into the grid from a row on. -/
structure HasRoom (g : Grid) (row : Nat) (rows : List (List ν)) : Prop where
  height : row + rows.length ≤ g.rows
  width : ∀ values ∈ rows, values.length ≤ g.cols

theorem HasRoom.head {values : List ν} {rows : List (List ν)}
    (h : HasRoom g row (values :: rows)) : row < g.rows ∧ 0 + values.length ≤ g.cols := by
  have hheight := h.height
  have hwidth := h.width values List.mem_cons_self
  rw [List.length_cons] at hheight
  exact ⟨by omega, by omega⟩

/-- Cells put over those of the grid take no room from the rows that follow. -/
theorem HasRoom.tail {values : List ν} {rows : List (List ν)} {g' : Grid}
    {put : Nat → Nat → Option Cell} (h : HasRoom g row (values :: rows))
    (hover : g.Overlays g' put) : HasRoom g' (row + 1) rows := by
  have hheight := h.height
  rw [List.length_cons] at hheight
  refine ⟨?_, fun values' hmem => ?_⟩
  · rw [hover.rows]
    omega
  · rw [hover.cols]
    exact h.width values' (List.mem_cons_of_mem values hmem)

/-- Rows of values of which each has a text are put over the cells of a grid. -/
theorem putRows_of_mapM_eq_ok {rows : List (List ν)} {texts : List (List String)}
    (hroom : HasRoom g row rows) (h : rows.mapM (·.mapM lib.textOf) = .ok texts) :
    ∃ g', lib.putRows row rows g = .ok g' ∧ g.Overlays g' (blockCells row texts) := by
  induction rows generalizing row texts g with
  | nil =>
    cases h
    refine ⟨g, rfl, Grid.overlays_self fun r k _ _ => ?_⟩
    simp [blockCells]
  | cons values rows ih =>
    obtain ⟨first, texts, hvalues, hrest, rfl⟩ := mapM_cons_eq_ok_iff.mp h
    obtain ⟨hrow, hwidth⟩ := hroom.head
    obtain ⟨g₁, hput, hfirst⟩ := putValues_of_mapM_eq_ok hrow hwidth hvalues
    obtain ⟨g₂, hput', hover⟩ := ih (hroom.tail hfirst) hrest
    refine ⟨g₂, ?_, ?_⟩
    · rw [putRows, hput]
      exact hput'
    · rw [show blockCells row (first :: texts) = _ from
        funext fun r => funext fun k => blockCells_cons row first texts r k]
      exact hfirst.trans hover

/-- The first value that fails, row by row, ends the writing. -/
theorem putRows_of_mapM_eq_error {rows : List (List ν)} {e : ValueFailure}
    (hroom : HasRoom g row rows) (h : rows.mapM (·.mapM lib.textOf) = .error e) :
    lib.putRows row rows g = .error (.value e) := by
  induction rows generalizing row g with
  | nil => cases h
  | cons values rows ih =>
    obtain ⟨hrow, hwidth⟩ := hroom.head
    rcases mapM_cons_eq_error_iff.mp h with hvalues | ⟨first, hvalues, hrest⟩
    · rw [putRows, putValues_of_mapM_eq_error hrow hwidth hvalues]
      rfl
    · obtain ⟨g₁, hput, hfirst⟩ := putValues_of_mapM_eq_ok hrow hwidth hvalues
      rw [putRows, hput]
      exact ih (hroom.tail hfirst) hrest

end Writing

/-! ### Any frame -/

variable {d : δ} {rows cols : Int}

/-- There is a grid of the size, and the frame fits in it. -/
def Fits (lib : FrameLibrary δ ν) (d : δ) (rows cols : Int) : Prop :=
  ((lib.shape d).1 ≤ rows ∧ (lib.shape d).2 ≤ cols) ∧ 1 ≤ rows ∧ 1 ≤ cols ∧ cols ≤ maxCols

/-- The value at a place of the frame. -/
def valueAt? (lib : FrameLibrary δ ν) (d : δ) (row col : Nat) : Option ν :=
  (lib.rows d)[row]?.bind (·[col]?)

/-- The text that belongs at a place: what is stored for the value there, and nothing if there is
none. -/
def StoresAt (lib : FrameLibrary δ ν) (d : δ) (row col : Nat) (text : String) : Prop :=
  match lib.valueAt? d row col with
  | none => text = ""
  | some v => lib.Stores v text

/-- Each value of the frame is stored as a text. -/
def IsStored (lib : FrameLibrary δ ν) (d : δ) : Prop :=
  ∀ values ∈ lib.rows d, ∀ v ∈ values, ∃ text, lib.Stores v text

/-- The failure is that of the first value that fails, row by row. -/
def FailsFirst (lib : FrameLibrary δ ν) (d : δ) (e : ValueFailure) : Prop :=
  ∃ before v after, (lib.rows d).flatten = before ++ v :: after ∧
    (∀ u ∈ before, ∃ text, lib.Stores u text) ∧ lib.Fails v e

theorem not_fails_of_stores {v : ν} {text : String} (h : lib.Stores v text) (e : ValueFailure) :
    ¬lib.Fails v e := by
  intro hfails
  rw [← textOf_eq_ok_iff] at h
  rw [← textOf_eq_error_iff, h] at hfails
  cases hfails

/-- A frame of which a value fails is not stored. -/
theorem FailsFirst.not_isStored {e : ValueFailure} (h : lib.FailsFirst d e) :
    ¬lib.IsStored d := by
  obtain ⟨before, v, after, hflat, -, hfails⟩ := h
  intro hstored
  have hmem : v ∈ (lib.rows d).flatten := by
    rw [hflat]
    exact List.mem_append_right _ List.mem_cons_self
  obtain ⟨values, hvalues, hv⟩ := List.mem_flatten.mp hmem
  obtain ⟨text, htext⟩ := hstored values hvalues v hv
  exact not_fails_of_stores htext e hfails

/-- If the texts of a frame are not all made, a value fails first. -/
theorem failsFirst_of_mapM {e : ValueFailure}
    (h : (lib.rows d).mapM (·.mapM lib.textOf) = .error e) : lib.FailsFirst d e := by
  obtain ⟨rowsBefore, values, rowsAfter, hrows, hbefore, hvalues⟩ :=
    exists_split_of_mapM_eq_error h
  obtain ⟨before, v, after, rfl, hstored, hv⟩ := exists_split_of_mapM_eq_error hvalues
  -- Before the value stand the rows before its own, and what is before it in its own row.
  refine ⟨rowsBefore.flatten ++ before, v, after ++ rowsAfter.flatten, ?_, fun u hu => ?_,
    (textOf_eq_error_iff v e).mp hv⟩
  · rw [hrows]
    simp
  · simp only [← textOf_eq_ok_iff]
    rcases List.mem_append.mp hu with hu | hu
    · obtain ⟨values', hvalues', hu⟩ := List.mem_flatten.mp hu
      obtain ⟨texts, htexts⟩ := hbefore values' hvalues'
      exact exists_of_mapM_eq_ok htexts hu
    · exact hstored u hu

/-- If they are, each value is stored, and the texts stand where the values do. -/
theorem isStored_of_mapM {texts : List (List String)}
    (h : (lib.rows d).mapM (·.mapM lib.textOf) = .ok texts) :
    lib.IsStored d ∧
      ∀ row col, lib.StoresAt d row col ((texts[row]?.bind (·[col]?)).getD "") := by
  constructor
  · intro values hvalues v hv
    obtain ⟨texts', htexts'⟩ := exists_of_mapM_eq_ok h hvalues
    obtain ⟨text, htext⟩ := exists_of_mapM_eq_ok htexts' hv
    exact ⟨text, (textOf_eq_ok_iff v text).mp htext⟩
  · intro row col
    unfold StoresAt valueAt?
    rcases getElem?_of_mapM_eq_ok h row with ⟨hnone, hnone'⟩ | ⟨values, texts', hrow, hrow', hmade⟩
    · rw [hnone, hnone']
      rfl
    · rw [hrow, hrow', Option.bind_some, Option.bind_some]
      rcases getElem?_of_mapM_eq_ok hmade col with ⟨hnone, hnone'⟩ | ⟨v, text, hv, htext, hstore⟩
      · rw [hnone, hnone']
        rfl
      · rw [hv, htext]
        exact (textOf_eq_ok_iff v text).mp hstore

/-- What does not fit is refused, and so is a size that no grid has. -/
theorem toGrid_of_not_fits (h : ¬lib.Fits d rows cols) :
    ∃ e, lib.toGrid d rows cols = .error e ∧ e.isValueError = true := by
  rw [toGrid]
  split
  · exact ⟨_, rfl, rfl⟩
  · next hfit =>
    cases hnew : Grid.new rows cols with
    | error e =>
      refine ⟨_, rfl, ?_⟩
      rw [FrameError.isValueError, Grid.isIndexError_of_new hnew, Bool.not_false]
    | ok blank => exact absurd ⟨by omega, Grid.size_of_new hnew⟩ h

/-- What fits is written into an empty grid that has room for it. -/
theorem toGrid_of_fits (hlib : lib.IsLawful) (h : lib.Fits d rows cols) :
    ∃ blank, lib.toGrid d rows cols = lib.putRows 0 (lib.rows d) blank ∧
      HasRoom blank 0 (lib.rows d) ∧ blank.rows = rows.toNat ∧ blank.cols = cols.toNat ∧
        ∀ row col, blank.cellAt row col = {} := by
  obtain ⟨blank, hnew, hrows, hcols, hempty⟩ := Grid.exists_new h.2
  obtain ⟨hheight, hwidth⟩ := h.1
  have hlength := hlib.length_rows_le d
  refine ⟨blank, ?_, ⟨by omega, fun values hvalues => ?_⟩, hrows, hcols, hempty⟩
  · rw [toGrid, if_neg (by omega), hnew]
    rfl
  · have hvalues := hlib.length_values d values hvalues
    omega

/-- **What a frame makes.**  A frame that fits makes the grid of what is stored for its values, or
fails with the first value that does; any other is refused with a value error. -/
theorem toGrid_cases (hlib : lib.IsLawful) (d : δ) (rows cols : Int) :
    (lib.Fits d rows cols ∧ lib.IsStored d ∧
      ∃ (g : Grid) (text : Nat → Nat → String), lib.toGrid d rows cols = .ok g ∧
        (∀ row col, lib.StoresAt d row col (text row col)) ∧
        g.IsArray rows.toNat cols.toNat fun row col => ⟨text row col, ""⟩) ∨
    (lib.Fits d rows cols ∧ ¬lib.IsStored d ∧ ∃ e, lib.FailsFirst d e ∧
      lib.toGrid d rows cols = .error (.value e)) ∨
    ¬lib.Fits d rows cols ∧
      ∃ e, lib.toGrid d rows cols = .error e ∧ e.isValueError = true := by
  by_cases hfits : lib.Fits d rows cols
  · obtain ⟨blank, hmade, hroom, hrows, hcols, hempty⟩ := toGrid_of_fits hlib hfits
    rw [hmade]
    cases htexts : (lib.rows d).mapM (·.mapM lib.textOf) with
    | error e =>
      have hfails := failsFirst_of_mapM htexts
      exact .inr (.inl ⟨hfits, hfails.not_isStored, e, hfails,
        putRows_of_mapM_eq_error hroom htexts⟩)
    | ok texts =>
      obtain ⟨hstored, hplaces⟩ := isStored_of_mapM htexts
      obtain ⟨g, hput, hover⟩ := putRows_of_mapM_eq_ok hroom htexts
      refine .inl ⟨hfits, hstored, g, _, hput, hplaces, ?_⟩
      have harray := hover.isArray
      simp only [hempty, getD_blockCells_zero] at harray
      rw [hrows, hcols] at harray
      exact harray
  · exact .inr (.inr ⟨hfits, toGrid_of_not_fits hfits⟩)

/-! ### The frame of a grid -/

section OfGrid

variable {g : Grid} {sources : Bool}

theorem shape_ofGrid (hlib : lib.IsLawful) (sources : Bool) (g : Grid) :
    lib.shape (lib.ofGrid sources g) = (g.rows, g.cols) := by
  rw [ofGrid, hlib.shape_make, Frame.height, Frame.width, Frame.ofGrid, List.length_map,
    List.length_map, List.length_range]
  exact congrArg (·, g.cols) g.shape.1

/-- The rows of the frame are those of the grid, with what the cells show. -/
theorem rows_ofGrid (hlib : lib.IsLawful) (sources : Bool) (g : Grid) :
    lib.rows (lib.ofGrid sources g) = g.cells.map (·.map fun c => lib.text (c.shown sources)) := by
  have hwidth : 0 < (Frame.ofGrid sources g).width := by
    rw [Frame.width, Frame.ofGrid, List.length_map, List.length_range]
    exact g.cols_pos
  rw [ofGrid, hlib.rows_make _ hwidth]
  simp only [Frame.ofGrid, Grid.snapshot, List.map_map, Function.comp_def, Cell.shown]

/-- The frame of a grid has what its cells show, and nothing outside of the grid. -/
theorem valueAt?_ofGrid (hlib : lib.IsLawful) (sources : Bool) (g : Grid) (row col : Nat) :
    lib.valueAt? (lib.ofGrid sources g) row col =
      if row < g.rows ∧ col < g.cols then
        some (lib.text ((g.cellAt row col).shown sources))
      else none := by
  rw [valueAt?, rows_ofGrid hlib, List.getElem?_map]
  by_cases hplace : row < g.rows ∧ col < g.cols
  · obtain ⟨cells, hrow, hcol⟩ := g.exists_row hplace.1 hplace.2
    rw [if_pos hplace, hrow, Option.map_some, Option.bind_some, List.getElem?_map, hcol]
    rfl
  · rw [if_neg hplace]
    cases hrow : g.cells[row]? with
    | none => rfl
    | some cells =>
      rw [Option.map_some, Option.bind_some, List.getElem?_map]
      cases hcol : cells[col]? with
      | none => rfl
      | some c => exact absurd (Grid.cellAt_eq_of_getElem? hrow hcol).1 hplace

/-- All of its values are stored. -/
theorem isStored_ofGrid (hlib : lib.IsLawful) (sources : Bool) (g : Grid) :
    lib.IsStored (lib.ofGrid sources g) := by
  intro values hvalues v hv
  rw [rows_ofGrid hlib] at hvalues
  obtain ⟨cells, -, rfl⟩ := List.mem_map.mp hvalues
  obtain ⟨c, -, rfl⟩ := List.mem_map.mp hv
  exact ⟨_, (textOf_eq_ok_iff _ _).mp (hlib.textOf_text (c.shown sources))⟩

/-- The literal with what a cell of the grid shows; nothing outside of the grid. -/
def literalAt (sources : Bool) (g : Grid) (row col : Nat) : Cell :=
  if row < g.rows ∧ col < g.cols then literal ((g.cellAt row col).shown sources) else {}

/-- What belongs at a place is the text of this literal. -/
theorem literal_of_storesAt (hlib : lib.IsLawful) {row col : Nat} {text : String}
    (h : lib.StoresAt (lib.ofGrid sources g) row col text) :
    literal text = literalAt sources g row col := by
  rw [StoresAt, valueAt?_ofGrid hlib] at h
  rw [literalAt]
  by_cases hplace : row < g.rows ∧ col < g.cols
  · simp only [if_pos hplace] at h ⊢
    rw [← textOf_eq_ok_iff, hlib.textOf_text, Except.ok.injEq] at h
    rw [h]
  · simp only [if_neg hplace] at h ⊢
    rw [h]
    rfl

/-- A smaller grid does not take the frame. -/
theorem toGrid_ofGrid_of_lt (hlib : lib.IsLawful) (h : rows < g.rows ∨ cols < g.cols) :
    lib.toGrid (lib.ofGrid sources g) rows cols = .error (.doesNotFit g.rows g.cols rows cols) := by
  rw [toGrid, shape_ofGrid hlib, if_pos h]

/-- There is no grid with columns beyond the letters. -/
theorem toGrid_ofGrid_of_maxCols_lt (hlib : lib.IsLawful) (h : ¬(rows < g.rows ∨ cols < g.cols))
    (hwide : maxCols < cols) :
    lib.toGrid (lib.ofGrid sources g) rows cols = .error (.grid .tooManyColumns) := by
  have hrows := g.rows_pos
  have hcols := g.cols_pos
  rw [toGrid, shape_ofGrid hlib, if_neg h, Grid.new, dif_neg (by omega), dif_pos hwide]
  rfl

/-- Any other grid holds the literals of the frame. -/
theorem toGrid_ofGrid_of_le (hlib : lib.IsLawful) (h : ¬(rows < g.rows ∨ cols < g.cols))
    (hwide : ¬maxCols < cols) :
    ∃ g', lib.toGrid (lib.ofGrid sources g) rows cols = .ok g' ∧
      g'.IsArray rows.toNat cols.toNat (literalAt sources g) := by
  have hfits : lib.Fits (lib.ofGrid sources g) rows cols := by
    have hrows := g.rows_pos
    have hcols := g.cols_pos
    rw [Fits, shape_ofGrid hlib]
    omega
  rcases toGrid_cases hlib (lib.ofGrid sources g) rows cols with
    ⟨-, -, g', text, hg', htext, harray⟩ | ⟨-, hstored, -⟩ | ⟨hno, -⟩
  · refine ⟨g', hg', ?_⟩
    have hcells : (fun row col => (⟨text row col, ""⟩ : Cell)) = literalAt sources g :=
      funext fun row => funext fun col => literal_of_storesAt hlib (htext row col)
    rw [← hcells]
    exact harray
  · exact absurd (isStored_ofGrid hlib sources g) hstored
  · exact absurd hfits hno

theorem formula_literalAt (sources : Bool) (g : Grid) (row col : Nat) :
    (literalAt sources g row col).formula = "" := by
  rw [literalAt]
  split <;> rfl

/-- A cell without a formula is the literal of its value. -/
theorem literalAt_eq_cellAt {row col : Nat} (hrow : row < g.rows) (hcol : col < g.cols)
    (hformula : (g.cellAt row col).formula = "") :
    literalAt false g row col = g.cellAt row col := by
  rw [literalAt, if_pos ⟨hrow, hcol⟩]
  exact Cell.eq_of_value_eq rfl hformula.symm

/-- The frame of the values of a grid makes the grid again if that holds no formula. -/
theorem toGrid_ofGrid_eq_iff (hlib : lib.IsLawful) (g : Grid) :
    lib.toGrid (lib.ofGrid false g) g.rows g.cols = .ok g ↔ g.formulaCells = [] := by
  have hle := g.cols_le
  have hmade : ∃ g', lib.toGrid (lib.ofGrid false g) g.rows g.cols = .ok g' ∧
      g'.IsArray g.rows g.cols (literalAt false g) :=
    toGrid_ofGrid_of_le hlib (by omega) (by omega)
  obtain ⟨g', hg', harray⟩ := hmade
  rw [hg', Except.ok.injEq, g.formulaCells_eq_nil_iff]
  constructor
  · -- What came back holds literals only.
    rintro rfl row col hrow hcol
    have hcell : g'.cellAt row col = literalAt false g' row col :=
      harray.snapshot row col hrow hcol
    rw [hcell, formula_literalAt]
  · -- Each cell is the literal of its own value.
    intro hnone
    refine (Grid.eq_of_cellAt_eq harray.size.1.symm harray.size.2.symm ?_).symm
    intro row col hrow hcol
    rw [← literalAt_eq_cellAt hrow hcol (hnone row col hrow hcol)]
    exact (harray.snapshot row col hrow hcol).symm

end OfGrid

/-- **Frames are converted place by place.**  The frame of a grid makes every grid that is no
smaller: in the block of the first grid it holds the texts of its cells as literals, and nothing
elsewhere.  Of the same size it is the first grid again if that holds no formula.  Any frame that
fits makes a grid that holds at each place the literal of what is stored for the value there,
nothing if it is missing and else its string form, as long as looking at the values does not fail.
If it does, the first failure, row by row, is what comes of the frame. -/
theorem converts_by_place (hlib : lib.IsLawful) :
    (∀ (g : Grid) (sources : Bool) (rows cols : Int),
      if rows < g.rows ∨ cols < g.cols then
        lib.toGrid (lib.ofGrid sources g) rows cols = .error (.doesNotFit g.rows g.cols rows cols)
      else if maxCols < cols then
        lib.toGrid (lib.ofGrid sources g) rows cols = .error (.grid .tooManyColumns)
      else
        ∃ g', lib.toGrid (lib.ofGrid sources g) rows cols = .ok g' ∧
          g'.IsArray rows.toNat cols.toNat fun row col =>
            if row < g.rows ∧ col < g.cols then
              ⟨if sources then (g.cellAt row col).source else (g.cellAt row col).value, ""⟩
            else {}) ∧
      (∀ g : Grid,
        lib.toGrid (lib.ofGrid false g) g.rows g.cols = .ok g ↔ g.formulaCells = []) ∧
      ∀ (d : δ) (rows cols : Int),
        (lib.Fits d rows cols ∧ lib.IsStored d ∧
          ∃ (g : Grid) (text : Nat → Nat → String), lib.toGrid d rows cols = .ok g ∧
            (∀ row col, lib.StoresAt d row col (text row col)) ∧
            g.IsArray rows.toNat cols.toNat fun row col => ⟨text row col, ""⟩) ∨
        (lib.Fits d rows cols ∧ ¬lib.IsStored d ∧ ∃ e, lib.FailsFirst d e ∧
          lib.toGrid d rows cols = .error (.value e)) ∨
        ¬lib.Fits d rows cols ∧
          ∃ e, lib.toGrid d rows cols = .error e ∧ e.isValueError = true := by
  refine ⟨fun g sources rows cols => ?_, toGrid_ofGrid_eq_iff hlib, toGrid_cases hlib⟩
  split
  · next hlt => exact toGrid_ofGrid_of_lt hlib hlt
  · next hle =>
    split
    · next hwide => exact toGrid_ofGrid_of_maxCols_lt hlib hle hwide
    · next hwide => exact toGrid_ofGrid_of_le hlib hle hwide

end FrameLibrary

namespace Frame

theorem isLawful_library : library.IsLawful where
  shape_make t := congrArg (·, t.width) (List.length_map _)
  rows_make t h := if_neg (Nat.pos_iff_ne_zero.mp h)
  isMissing_text _ := rfl
  form_text _ := rfl
  length_rows_le d := by
    show (if d.width = 0 then [] else d.data).length ≤ d.height
    split
    · exact Nat.zero_le _
    · exact Nat.le_refl _
  length_values d values hvalues := by
    have hmem : values ∈ if d.width = 0 then [] else d.data := hvalues
    split at hmem
    · exact absurd hmem List.not_mem_nil
    · exact d.aligned values hmem

/-- A grid of one cell, which holds a formula. -/
def summed : Grid :=
  ⟨1, 1, [[⟨"6", "=SUM(A1:A3)"⟩]], Nat.one_pos, Nat.one_pos, maxCols_pos, by decide⟩

/-- A formula comes back as a literal, in a larger grid. -/
theorem converts_by_place_library :
    library.IsLawful ∧ ∃ g, library.toGrid (library.ofGrid true summed) 2 2 = .ok g ∧
      g.get 0 0 = .ok ⟨"=SUM(A1:A3)", ""⟩ ∧ g.get 1 1 = .ok {} := by
  have hmade := (FrameLibrary.converts_by_place isLawful_library).1 summed true 2 2
  rw [if_neg (by decide), if_neg (by decide)] at hmade
  obtain ⟨g, hg, harray⟩ := hmade
  exact ⟨isLawful_library, g, hg, (harray.get 0 0 _).mpr (by decide),
    (harray.get 1 1 _).mpr (by decide)⟩

/-- A frame with a list in its one place. -/
def listed : Frame FrameEntry where
  columns := ["A"]
  data := [[.list [.text "x", .text "y"]]]
  aligned := by decide

/-- The list is not missing and has a string form, but it makes no grid. -/
theorem toGrid_listed :
    (FrameEntry.list [.text "x", .text "y"]).form = .ok "['x', 'y']" ∧
      library.toGrid listed 1 1 = .error (.value ⟨"ValueError",
        "The truth value of an array with more than one element is ambiguous. " ++
          "Use a.any() or a.all()"⟩) :=
  ⟨rfl, rfl⟩

end Frame

end Spreadsheet

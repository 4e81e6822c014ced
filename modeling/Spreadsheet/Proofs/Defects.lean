import Spreadsheet.Proofs.Document

/-!
Which documents are read as grids, and how the others are refused.

`Document.defects` goes through a whole document and lists everything that is wrong with it, in
reading order.  Reading stops at the first thing that is wrong, so `Grid.ofJson_exact` says that the
refusal is the head of this list, that a document without defects is one in the sense of
`Document.IsGrid`, and that the grid read from it has the document with everything left out that
reading passes over.

The refusal of a list is the head of the refusals of its items one after another
(`refusal?_mapM`).  Cells, rows and whole documents are three uses of it.
-/

namespace Spreadsheet

section Lists

variable {α β γ ε : Type}

/-- The refusal, if there is one. -/
def refusal? : Except ε α → Option ε
  | .ok _ => none
  | .error e => some e

@[simp] theorem refusal?_ok (a : α) : refusal? (.ok a : Except ε α) = none := rfl

@[simp] theorem refusal?_error (e : ε) : refusal? (.error e : Except ε α) = some e := rfl

theorem refusal?_eq_some_iff {r : Except ε α} {e : ε} : refusal? r = some e ↔ r = .error e := by
  cases r <;> simp

theorem refusal?_eq_none_iff {r : Except ε α} : refusal? r = none ↔ ∃ a, r = .ok a := by
  cases r <;> simp

/-- What each item of a list can be refused for tells what the list is refused for. -/
theorem refusal?_mapM {f : β → Except ε α} {defects : β → List ε}
    (hf : ∀ item, refusal? (f item) = (defects item).head?) (items : List β) :
    refusal? (items.mapM f) = (items.flatMap defects).head? := by
  induction items with
  | nil => rfl
  | cons item items ih =>
    rw [List.mapM_cons, List.flatMap_cons, List.head?_append, ← hf item, ← ih]
    cases f item with
    | error e => rfl
    | ok a => cases items.mapM f <;> rfl

/-- What is known of each item that is read is known of the items one after another. -/
theorem map_eq_of_mapM_zipIdx (known : α → γ) (told : β → γ) {f : β × Nat → Except ε α}
    (hf : ∀ item i a, f (item, i) = .ok a → known a = told item) :
    ∀ {items : List β} {k : Nat} {read : List α}, (items.zipIdx k).mapM f = .ok read →
      read.map known = items.map told := by
  intro items
  induction items with
  | nil =>
    intro k read h
    cases h
    rfl
  | cons item items ih =>
    intro k read h
    rw [List.zipIdx_cons, List.mapM_cons] at h
    match hitem : f (item, k), hitems : (items.zipIdx (k + 1)).mapM f with
    | .error e, _ =>
      rw [hitem] at h
      cases h
    | .ok a, .error e =>
      rw [hitem, hitems] at h
      cases h
    | .ok a, .ok rest =>
      rw [hitem, hitems] at h
      cases h
      rw [List.map_cons, List.map_cons, hf item k a hitem, ih hitems]

theorem flatMap_zipIdx_eq_nil_iff (defects : β × Nat → List ε) (Sound : β → Prop)
    (h : ∀ item i, defects (item, i) = [] ↔ Sound item) (items : List β) :
    items.zipIdx.flatMap defects = [] ↔ ∀ item ∈ items, Sound item := by
  rw [List.flatMap_eq_nil_iff]
  constructor
  · intro hnil item hitem
    obtain ⟨i, hi⟩ := List.mem_iff_getElem?.mp hitem
    exact (h item i).mp (hnil (item, i) (List.mem_zipIdx_iff_getElem?.mpr hi))
  · rintro hsound ⟨item, i⟩ hitem
    exact (h item i).mpr (hsound item (List.fst_mem_of_mem_zipIdx hitem))

end Lists

/-- The refusal is a type error: the value is not of the type that was asked for.  All others are
value errors. -/
def DocumentError.isTypeError : DocumentError → Bool
  | .notGrid _ | .notText _ | .notList _ => true
  | _ => false

namespace Document

/-! ### What a document is -/

/-- The value is a text. -/
def isText : Json → Bool
  | .string _ => true
  | _ => false

/-- The items of a list; none if the value is not a list. -/
def itemsOf : Json → List Json
  | .array items => items
  | _ => []

/-- The documents of cells: objects with a text under `value`, and with a text under `formula` if
there is anything under this name. -/
def IsCell (v : Json) : Prop :=
  ∃ fields value, v = .object fields ∧ Json.field? fields "value" = some (.string value) ∧
    ∀ formula, Json.field? fields "formula" = some formula → ∃ text, formula = .string text

/-- The documents of rows of a width. -/
def IsRow (width : Nat) (v : Json) : Prop :=
  ∃ items, v = .array items ∧ items ≠ [] ∧ items.length = width ∧ ∀ item ∈ items, IsCell item

/-- The documents of grids. -/
def IsGrid (v : Json) : Prop :=
  ∃ rows width, v = .array rows ∧ rows ≠ [] ∧ width ≤ maxCols ∧ ∀ row ∈ rows, IsRow width row

/-- The list with each item replaced; other values stay. -/
def mapItems (f : Json → Json) : Json → Json
  | .array items => .array (items.map f)
  | v => v

/-- An object with nothing but its value and its formula, which is empty if there is none; other
values stay. -/
def reducedCell : Json → Json
  | .object fields => .object
    [("value", (Json.field? fields "value").getD .null),
      ("formula", (Json.field? fields "formula").getD (.string ""))]
  | v => v

/-- A document with every cell reduced to its value and its formula. -/
def reduced : Json → Json :=
  mapItems (mapItems reducedCell)

/-! ### What may be wrong with a document -/

/-- What is wrong with an item of a row. -/
def cellDefects (row col : Nat) : Json → List DocumentError
  | .object fields =>
    let value := Json.field? fields "value"
    let formula := Json.field? fields "formula"
    (if value.isNone then [.noValue row col] else []) ++
      if value.all isText ∧ formula.all isText then [] else [.notStrings row col]
  | v => [.notObject row col v.kindName]

/-- What is wrong with an item of a document that ought to have rows of a width. -/
def rowDefects (width row : Nat) : Json → List DocumentError
  | .array (item :: items) =>
    (if (item :: items).length = width then []
      else [.badWidth row (item :: items).length width]) ++
      (item :: items).zipIdx.flatMap fun (item, col) => cellDefects row col item
  | _ => [.badRow row]

/-- What is wrong with the rows of a document; the first one sets the width. -/
def rowsDefects (rows : List Json) : List DocumentError :=
  rows.zipIdx.flatMap fun (item, row) => rowDefects (itemsOf (rows.headD .null)).length row item

/-- Everything that is wrong with a document, in reading order. -/
def defects : Json → List DocumentError
  | .array [] => [.noRows]
  | .array (first :: rest) =>
    rowsDefects (first :: rest) ++
      if (itemsOf first).length ≤ maxCols then [] else [.grid .tooManyColumns]
  | v => [.notList v.className]

/-! ### Cells -/

theorem isText_iff {v : Json} : isText v = true ↔ ∃ text, v = .string text := by
  cases v <;> simp [isText]

theorem cellDefects_eq_nil_iff (row col : Nat) (v : Json) :
    cellDefects row col v = [] ↔ IsCell v := by
  cases v with
  | object fields =>
    cases hvalue : Json.field? fields "value" with
    | none => simp [cellDefects, IsCell, hvalue]
    | some value =>
      simp [cellDefects, IsCell, hvalue, Option.all_eq_true, isText_iff]
  | _ => simp [cellDefects, IsCell]

theorem isTypeError_of_mem_cellDefects {row col : Nat} {v : Json} {e : DocumentError}
    (h : e ∈ cellDefects row col v) : e.isTypeError = false := by
  cases v with
  | object fields =>
    obtain he | he := List.mem_append.mp h
    · split at he
      · obtain rfl := List.mem_singleton.mp he
        rfl
      · cases he
    · split at he
      · cases he
      · obtain rfl := List.mem_singleton.mp he
        rfl
  | _ =>
    obtain rfl := List.mem_singleton.mp h
    rfl

theorem refusal?_cell (row col : Nat) (v : Json) :
    refusal? (Cell.ofJson row col v) = (cellDefects row col v).head? := by
  cases v with
  | object fields =>
    rw [Cell.ofJson, cellDefects]
    cases hvalue : Json.field? fields "value" with
    | none => rfl
    | some value =>
      cases hformula : Json.field? fields "formula" with
      | none => cases value <;> rfl
      | some formula => cases value <;> cases formula <;> rfl
  | _ => rfl

theorem toJson_cell {row col : Nat} {v : Json} {c : Cell} (h : Cell.ofJson row col v = .ok c) :
    c.toJson = reducedCell v := by
  cases v with
  | object fields =>
    simp only [Cell.ofJson] at h
    split at h
    · cases h
    · rename_i value formula hvalue hformula
      cases h
      rw [Cell.toJson, reducedCell, hvalue, hformula]
      rfl
    · cases h
  | _ => cases h

/-! ### Rows -/

/-- An item of a document is a list with items in it, or it is no row. -/
theorem rowItems_cases (row : Nat) (v : Json) :
    (itemsOf v ≠ [] ∧ v = .array (itemsOf v) ∧ rowItems row v = .ok (itemsOf v)) ∨
      itemsOf v = [] ∧ rowItems row v = .error (.badRow row) ∧
        ∀ width, rowDefects width row v = [.badRow row] := by
  match v with
  | .array (item :: items) => exact .inl ⟨nofun, rfl, rfl⟩
  | .array [] | .null | .bool _ | .int _ | .float _ | .string _ | .object _ =>
    exact .inr ⟨rfl, rfl, fun _ => rfl⟩

theorem rowDefects_array {items : List Json} (hitems : items ≠ []) (width row : Nat) :
    rowDefects width row (.array items) =
      (if items.length = width then [] else [.badWidth row items.length width]) ++
        items.zipIdx.flatMap fun (item, col) => cellDefects row col item := by
  cases items with
  | nil => exact absurd rfl hitems
  | cons item items => rfl

/-- A row is read with its items counted first. -/
theorem rowOfJson_array {items : List Json} (hitems : items ≠ []) (width row : Nat) :
    rowOfJson width row (.array items) =
      if items.length = width then items.zipIdx.mapM fun (item, col) => Cell.ofJson row col item
      else .error (.badWidth row items.length width) := by
  cases items with
  | nil => exact absurd rfl hitems
  | cons item items =>
    rw [rowOfJson, rowItems]
    by_cases hwidth : (item :: items).length = width
    · rw [if_pos hwidth]
      simp only [bind, Except.bind]
      rw [if_neg (not_not_intro hwidth)]
    · rw [if_neg hwidth]
      simp only [bind, Except.bind]
      rw [if_pos hwidth]

theorem refusal?_row (width row : Nat) (v : Json) :
    refusal? (rowOfJson width row v) = (rowDefects width row v).head? := by
  obtain ⟨hitems, hv, -⟩ | ⟨-, herror, hdefects⟩ := rowItems_cases row v
  · have hcells := refusal?_mapM
      (fun entry : Json × Nat => refusal?_cell row entry.2 entry.1) (itemsOf v).zipIdx
    rw [hv, rowOfJson_array hitems, rowDefects_array hitems, List.head?_append, ← hcells]
    by_cases hwidth : (itemsOf v).length = width
    · rw [if_pos hwidth, if_pos hwidth]
      rfl
    · rw [if_neg hwidth, if_neg hwidth]
      rfl
  · rw [rowOfJson, herror, hdefects]
    rfl

theorem rowDefects_eq_nil_iff (width row : Nat) (v : Json) :
    rowDefects width row v = [] ↔ IsRow width v := by
  obtain ⟨hitems, hv, -⟩ | ⟨hnil, -, hdefects⟩ := rowItems_cases row v
  · have hcells := flatMap_zipIdx_eq_nil_iff
      (fun entry : Json × Nat => cellDefects row entry.2 entry.1) IsCell
      (fun item col => cellDefects_eq_nil_iff row col item) (itemsOf v)
    rw [hv, rowDefects_array hitems, List.append_eq_nil_iff, hcells]
    simp [IsRow, hitems]
  · rw [hdefects]
    refine iff_of_false (List.cons_ne_nil _ _) ?_
    rintro ⟨items, rfl, hne, -⟩
    exact hne hnil

theorem isTypeError_of_mem_rowDefects {width row : Nat} {v : Json} {e : DocumentError}
    (h : e ∈ rowDefects width row v) : e.isTypeError = false := by
  obtain ⟨hitems, hv, -⟩ | ⟨-, -, hdefects⟩ := rowItems_cases row v
  · rw [hv, rowDefects_array hitems] at h
    obtain he | he := List.mem_append.mp h
    · split at he
      · cases he
      · obtain rfl := List.mem_singleton.mp he
        rfl
    · obtain ⟨⟨item, col⟩, -, he⟩ := List.mem_flatMap.mp he
      exact isTypeError_of_mem_cellDefects he
  · rw [hdefects] at h
    obtain rfl := List.mem_singleton.mp h
    rfl

/-- A row that is read has the width asked for, and its document. -/
theorem row_read {width row : Nat} {v : Json} {cells : List Cell}
    (h : rowOfJson width row v = .ok cells) :
    cells.length = width ∧ .array (cells.map Cell.toJson) = mapItems reducedCell v := by
  obtain ⟨hitems, hv, -⟩ | ⟨-, herror, -⟩ := rowItems_cases row v
  · rw [hv, rowOfJson_array hitems] at h
    split at h
    · rename_i hwidth
      have hjson := map_eq_of_mapM_zipIdx Cell.toJson reducedCell (fun _ _ _ => toJson_cell) h
      refine ⟨?_, by rw [hv, mapItems, hjson]⟩
      rw [← hwidth, ← cells.length_map Cell.toJson, hjson, List.length_map]
    · cases h
  · rw [rowOfJson, herror] at h
    cases h

/-! ### Documents -/

theorem refusal?_rows (first : Json) (rest : List Json) :
    refusal? (Snapshot.ofJson (.array (first :: rest))) =
      (rowsDefects (first :: rest)).head? := by
  obtain ⟨-, -, hrow⟩ | ⟨-, herror, hdefects⟩ := rowItems_cases 0 first
  · have hrows := refusal?_mapM
      (fun entry : Json × Nat => refusal?_row (itemsOf first).length entry.2 entry.1)
      (first :: rest).zipIdx
    rw [Snapshot.ofJson, hrow]
    exact hrows
  · -- the first row is refused before its width is known
    rw [Snapshot.ofJson, herror, rowsDefects, List.zipIdx_cons, List.flatMap_cons]
    simp only [hdefects]
    rfl

/-- The contents that are read have the width of the first row, and their document. -/
theorem rows_read {first : Json} {rest : List Json} {s : Snapshot}
    (h : Snapshot.ofJson (.array (first :: rest)) = .ok s) :
    0 < (itemsOf first).length ∧ s.HasShape (rest.length + 1) (itemsOf first).length ∧
      s.toJson = reduced (.array (first :: rest)) := by
  obtain ⟨hitems, -, hrow⟩ | ⟨-, herror, -⟩ := rowItems_cases 0 first
  · rw [Snapshot.ofJson, hrow] at h
    have hwidth := map_eq_of_mapM_zipIdx List.length (fun _ => (itemsOf first).length)
      (fun _ _ _ h => (row_read h).1) h
    have hjson := map_eq_of_mapM_zipIdx (fun row => Json.array (row.map Cell.toJson))
      (mapItems reducedCell) (fun _ _ _ h => (row_read h).2) h
    refine ⟨List.length_pos_iff.mpr hitems, ⟨?_, fun row hmem => ?_⟩, ?_⟩
    · rw [← s.length_map List.length, hwidth, List.length_map, List.length_cons]
    · have hlength : row.length ∈ s.map List.length := List.mem_map_of_mem hmem
      rw [hwidth] at hlength
      obtain ⟨_, -, heq⟩ := List.mem_map.mp hlength
      exact heq.symm
    · rw [Snapshot.toJson, hjson]
      rfl
  · rw [Snapshot.ofJson, herror] at h
    cases h

theorem defects_eq_nil_iff (v : Json) : defects v = [] ↔ IsGrid v := by
  match v with
  | .array (first :: rest) =>
    have hrows : rowsDefects (first :: rest) = [] ↔
        ∀ row ∈ first :: rest, IsRow (itemsOf first).length row :=
      flatMap_zipIdx_eq_nil_iff
        (fun entry : Json × Nat => rowDefects (itemsOf first).length entry.2 entry.1)
        (IsRow (itemsOf first).length)
        (fun item row => rowDefects_eq_nil_iff (itemsOf first).length row item) (first :: rest)
    have hcols : (if (itemsOf first).length ≤ maxCols then []
        else [DocumentError.grid .tooManyColumns]) = [] ↔ (itemsOf first).length ≤ maxCols := by
      simp
    rw [defects, List.append_eq_nil_iff, hrows, hcols]
    constructor
    · rintro ⟨hall, hle⟩
      exact ⟨first :: rest, _, rfl, List.cons_ne_nil _ _, hle, hall⟩
    · rintro ⟨rows, width, heq, -, hle, hall⟩
      cases heq
      obtain ⟨items, rfl, -, rfl, -⟩ := hall first List.mem_cons_self
      exact ⟨hall, hle⟩
  | .array [] =>
    refine iff_of_false (List.cons_ne_nil _ _) ?_
    rintro ⟨rows, width, heq, hne, -⟩
    cases heq
    exact hne rfl
  | .null | .bool _ | .int _ | .float _ | .string _ | .object _ =>
    refine iff_of_false (List.cons_ne_nil _ _) ?_
    rintro ⟨rows, width, heq, -⟩
    cases heq

/-- Nothing that may be wrong inside of a list is a matter of its type. -/
theorem isTypeError_of_mem_defects {rows : List Json} {e : DocumentError}
    (h : e ∈ defects (.array rows)) : e.isTypeError = false := by
  cases rows with
  | nil =>
    obtain rfl := List.mem_singleton.mp h
    rfl
  | cons first rest =>
    obtain he | he := List.mem_append.mp h
    · obtain ⟨⟨item, row⟩, -, he⟩ := List.mem_flatMap.mp he
      exact isTypeError_of_mem_rowDefects he
    · split at he
      · cases he
      · obtain rfl := List.mem_singleton.mp he
        rfl

end Document

namespace Grid

/-- A rectangle is the contents of a grid unless it is too wide. -/
theorem ofSnapshot_of_shape {s : Snapshot} {rows cols : Nat} (hs : s.HasShape rows cols)
    (hrows : 0 < rows) (hcols : 0 < cols) :
    ofSnapshot s =
      if hle : cols ≤ maxCols then .ok ⟨rows, cols, s, hrows, hcols, hle, hs⟩
      else .error .tooManyColumns := by
  by_cases hle : cols ≤ maxCols
  · rw [dif_pos hle]
    exact ofSnapshot_snapshot ⟨rows, cols, s, hrows, hcols, hle, hs⟩
  · rw [dif_neg hle]
    match s, hs with
    | [], hs => exact absurd hs.1 (Nat.ne_of_lt hrows)
    | [] :: rest, hs => exact absurd (hs.2 [] List.mem_cons_self) (Nat.ne_of_lt hcols)
    | (c :: row) :: rest, hs =>
      have hwidth : (c :: row).length = cols := hs.2 (c :: row) List.mem_cons_self
      rw [ofSnapshot, hwidth, new, dif_neg (by simp; omega), dif_pos (by omega)]
      · rfl
      · exact List.cons_ne_nil c row

/-- Contents that are read make a grid, unless their rows are too wide. -/
theorem ofJson_of_rows {first : Json} {rest : List Json} {s : Snapshot}
    (h : Snapshot.ofJson (.array (first :: rest)) = .ok s) :
    ((Document.itemsOf first).length ≤ maxCols ∧
      ∃ g, ofJson (.array (first :: rest)) = .ok g ∧ g.snapshot = s) ∨
    ¬(Document.itemsOf first).length ≤ maxCols ∧
      ofJson (.array (first :: rest)) = .error (.grid .tooManyColumns) := by
  obtain ⟨hcols, hshape, -⟩ := Document.rows_read h
  have hgrid := ofSnapshot_of_shape hshape (Nat.succ_pos _) hcols
  rw [ofJson, h]
  simp only [bind, Except.bind]
  by_cases hle : (Document.itemsOf first).length ≤ maxCols
  · rw [hgrid, dif_pos hle]
    exact .inl ⟨hle, _, rfl, rfl⟩
  · rw [hgrid, dif_neg hle]
    exact .inr ⟨hle, rfl⟩

/-- A document is refused for the first thing that is wrong with it. -/
theorem refusal?_ofJson (v : Json) : refusal? (ofJson v) = (Document.defects v).head? := by
  match v with
  | .array (first :: rest) =>
    have hrows := Document.refusal?_rows first rest
    rw [Document.defects, List.head?_append, ← hrows]
    cases hs : Snapshot.ofJson (.array (first :: rest)) with
    | error e =>
      rw [ofJson, hs]
      rfl
    | ok s =>
      obtain ⟨hle, g, hread, -⟩ | ⟨hle, herror⟩ := ofJson_of_rows hs
      · rw [hread, if_pos hle]
        rfl
      · rw [herror, if_neg hle]
        rfl
  | .array [] | .null | .bool _ | .int _ | .float _ | .string _ | .object _ => rfl

/-- The grid that is read has the document that was read, less what is passed over. -/
theorem toJson_of_ofJson {v : Json} {g : Grid} (h : ofJson v = .ok g) :
    g.toJson = Document.reduced v := by
  match v with
  | .array (first :: rest) =>
    cases hs : Snapshot.ofJson (.array (first :: rest)) with
    | error e =>
      rw [ofJson, hs] at h
      cases h
    | ok s =>
      obtain ⟨-, g', hread, rfl⟩ | ⟨-, herror⟩ := ofJson_of_rows hs
      · rw [hread] at h
        cases h
        exact (Document.rows_read hs).2.2
      · rw [herror] at h
        cases h
  | .array [] | .null | .bool _ | .int _ | .float _ | .string _ | .object _ => cases h

/-- **Exactly the documents of grids are read**, up to other fields of the cells and formulas left
out, and a grid is read from its own document.  What is not a list is refused with a type error, and
a list with a value error; in both cases it is the first of the defects. -/
theorem ofJson_exact (v : Json) :
    ((∃ g, ofJson v = .ok g) ↔ Document.IsGrid v) ∧
      (∀ g, ofJson v = .ok g → g.toJson = Document.reduced v) ∧
      (∀ g : Grid, ofJson g.toJson = .ok g) ∧
      (∀ e, ofJson v = .error e ↔ (Document.defects v).head? = some e) ∧
      ∀ e, ofJson v = .error e → (e.isTypeError = true ↔ ∀ rows, v ≠ .array rows) := by
  have hrefused : ∀ e, ofJson v = .error e ↔ (Document.defects v).head? = some e := by
    intro e
    rw [← refusal?_ofJson, refusal?_eq_some_iff]
  refine ⟨?_, fun g => toJson_of_ofJson, fun g => g.ofJson_written false, hrefused, ?_⟩
  · rw [← refusal?_eq_none_iff, refusal?_ofJson, List.head?_eq_none_iff,
      Document.defects_eq_nil_iff]
  · intro e he
    have hmem : e ∈ Document.defects v := List.mem_of_head? ((hrefused e).mp he)
    match v with
    | .array rows =>
      rw [Document.isTypeError_of_mem_defects hmem]
      exact iff_of_false nofun fun h => h rows rfl
    | .null | .bool _ | .int _ | .float _ | .string _ | .object _ =>
      rw [List.mem_singleton.mp hmem]
      exact iff_of_true rfl nofun

/-- A row of two cells: one with another field and no formula, one with two values. -/
def looseDocument : Json :=
  .array [.array [.object [("note", .null), ("value", .string "7")],
    .object [("value", .int 1), ("formula", .string "=SUM(A1:A1)"), ("value", .string "7")]]]

/-- A value that is a number, in a row that is shorter than the next one, which has a text for a
cell. -/
def faultyDocument : Json :=
  .array [.array [.object [("value", .int 1)]],
    .array [.object [("value", .string "")], .string "x"]]

/-- What a document leaves open is filled in, and of three defects the first is told. -/
theorem ofJson_exact_loose :
    ofJson looseDocument =
        .ok ⟨1, 2, [[⟨"7", ""⟩, ⟨"7", "=SUM(A1:A1)"⟩]], by decide, by decide, by decide,
          by decide⟩ ∧
      Document.IsGrid looseDocument ∧
      Document.reduced looseDocument =
        .array [.array [.object [("value", .string "7"), ("formula", .string "")],
          .object [("value", .string "7"), ("formula", .string "=SUM(A1:A1)")]]] ∧
      Document.defects faultyDocument = [.notStrings 0 0, .badWidth 1 2 1, .notObject 1 1 "str"] ∧
      ofJson faultyDocument = .error (.notStrings 0 0) ∧
      (DocumentError.notStrings 0 0).isTypeError = false := by
  obtain ⟨haccepted, hreduced, -⟩ := ofJson_exact looseDocument
  obtain ⟨-, -, -, hrefused, htype⟩ := ofJson_exact faultyDocument
  have hread : ofJson looseDocument =
      .ok ⟨1, 2, [[⟨"7", ""⟩, ⟨"7", "=SUM(A1:A1)"⟩]], by decide, by decide, by decide, by decide⟩ :=
    rfl
  have herror : ofJson faultyDocument = .error (.notStrings 0 0) := (hrefused _).mpr rfl
  refine ⟨hread, haccepted.mp ⟨_, hread⟩, (hreduced _ hread).symm, rfl, herror, ?_⟩
  rw [Bool.eq_false_iff, Ne, htype _ herror]
  exact fun h => h _ rfl

end Grid

end Spreadsheet

import Spreadsheet.Grid.Document
import Spreadsheet.Proofs.Json.RoundTrip

/-!
Grids survive being written and read.

`Grid.read_write_padded` says that the text of a grid's document reads back as the same grid, in
every padded layout.  It joins the round trip of documents with two facts about grids: a grid is
what its own document describes, in whatever order the fields of its cells stand
(`Snapshot.ofJson_encoded`), and a grid is made from its own contents (`Grid.ofSnapshot_snapshot`).
-/

namespace Spreadsheet

open Json

/-- Going through a list with numbers beside the items, where the numbers do not matter. -/
theorem mapM_zipIdx_map {α β ε : Type} {f : β × Nat → Except ε α} {encode : α → β} :
    ∀ {items : List α} (k : Nat), (∀ item ∈ items, ∀ i, f (encode item, i) = .ok item) →
      ((items.map encode).zipIdx k).mapM f = .ok items := by
  intro items
  induction items with
  | nil => exact fun _ _ => rfl
  | cons item items ih =>
    intro k hf
    rw [List.map_cons, List.zipIdx_cons, List.mapM_cons, hf item List.mem_cons_self,
      ih (k + 1) fun item hitem => hf item (List.mem_cons_of_mem _ hitem)]
    rfl

theorem textual_pair (depth : Nat) (name text name' text' : String) :
    Textual (depth + 1) (.object [(name, .string text), (name', .string text')]) := by
  refine .object fun field hfield => ?_
  simp only [List.mem_cons, List.not_mem_nil, or_false] at hfield
  rcases hfield with rfl | rfl <;> exact .string

namespace Cell

theorem ofJson_toJson (c : Cell) (row col : Nat) : ofJson row col c.toJson = .ok c :=
  rfl

/-- Sorted by name, the formula stands before the value. -/
theorem sortNames_toJson (c : Cell) :
    c.toJson.sortNames = .object [("formula", .string c.formula), ("value", .string c.value)] := by
  simp [toJson, sortNames, sortFields, List.mergeSort]

theorem ofJson_sortNames_toJson (c : Cell) (row col : Nat) :
    ofJson row col c.toJson.sortNames = .ok c := by
  rw [sortNames_toJson]
  rfl

theorem textual_toJson (c : Cell) (depth : Nat) : Textual (depth + 1) c.toJson :=
  textual_pair depth "value" c.value "formula" c.formula

theorem textual_sortNames_toJson (c : Cell) (depth : Nat) :
    Textual (depth + 1) c.toJson.sortNames := by
  rw [sortNames_toJson]
  exact textual_pair depth "formula" c.formula "value" c.value

end Cell

namespace Snapshot

/-- The document of some contents, with the document of a cell left open. -/
def encoded (encode : Cell → Json) (s : Snapshot) : Json :=
  .array (s.map fun row => .array (row.map encode))

/-- Sorting the fields of a document sorts the fields of its cells and nothing else. -/
theorem sortNames_toJson (s : Snapshot) :
    s.toJson.sortNames = s.encoded fun c => c.toJson.sortNames := by
  have hitems : ∀ items : List Json, sortItems items = items.map Json.sortNames := by
    intro items
    induction items with
    | nil => rfl
    | cons item items ih => rw [sortItems, ih, List.map_cons]
  rw [toJson, encoded, Json.sortNames, hitems, List.map_map]
  congr 2
  funext row
  rw [Function.comp_apply, Json.sortNames, hitems, List.map_map]
  rfl

theorem textual_encoded {encode : Cell → Json} {depth : Nat}
    (hencode : ∀ c, Textual (depth + 1) (encode c)) (s : Snapshot) :
    Textual (depth + 3) (s.encoded encode) := by
  refine .array fun item hitem => ?_
  obtain ⟨row, _, rfl⟩ := List.mem_map.mp hitem
  refine .array fun item hitem => ?_
  obtain ⟨c, _, rfl⟩ := List.mem_map.mp hitem
  exact hencode c

/-- Contents are what their document describes, if every cell is. -/
theorem ofJson_encoded {encode : Cell → Json}
    (hencode : ∀ c row col, Cell.ofJson row col (encode c) = .ok c) {s : Snapshot} {rows cols : Nat}
    (hs : s.HasShape rows cols) (hrows : 0 < rows) (hcols : 0 < cols) :
    ofJson (s.encoded encode) = .ok s := by
  have hitems : ∀ row ∈ s, ∀ i,
      rowItems i (.array (row.map encode)) = .ok (row.map encode) := by
    intro row hrow i
    cases row with
    | nil =>
      have := hs.2 [] hrow
      rw [List.length_nil] at this
      omega
    | cons c row => rfl
  have hmap : ∀ row ∈ s, ∀ i, rowOfJson cols i (.array (row.map encode)) = .ok row := by
    intro row hrow i
    rw [rowOfJson, hitems row hrow i]
    simp only [bind, Except.bind, List.length_map, hs.2 row hrow]
    rw [if_neg (by simp)]
    exact mapM_zipIdx_map 0 fun c _ col => hencode c i col
  cases s with
  | nil =>
    have := hs.1
    rw [List.length_nil] at this
    omega
  | cons first s =>
    have hwidth : (first.map encode).length = cols := by
      rw [List.length_map, hs.2 first List.mem_cons_self]
    have hall := mapM_zipIdx_map (f := fun entry => rowOfJson cols entry.2 entry.1) 0 hmap
    rw [encoded, List.map_cons, ofJson, hitems first List.mem_cons_self]
    simp only [bind, Except.bind, hwidth]
    exact hall

end Snapshot

namespace Grid

/-- A size that a grid may have gives an empty grid of this size. -/
theorem new_natCast {rows cols : Nat} (hrows : 0 < rows) (hcols : 0 < cols)
    (hle : cols ≤ maxCols) : new rows cols = .ok (blank rows cols hrows hcols hle) := by
  rw [new, dif_neg (by omega), dif_neg (by omega)]
  rfl

/-- A grid is made from its own contents. -/
theorem ofSnapshot_snapshot (g : Grid) : ofSnapshot g.snapshot = .ok g := by
  have hrows := g.rows_pos
  have hcols := g.cols_pos
  have hshape := g.shape
  rw [snapshot]
  match hcells : g.cells with
  | [] =>
    rw [← hshape.1, hcells] at hrows
    exact absurd hrows (Nat.lt_irrefl 0)
  | [] :: rest =>
    rw [← hshape.2 [] (hcells ▸ List.mem_cons_self)] at hcols
    exact absurd hcols (Nat.lt_irrefl 0)
  | (c :: row) :: rest =>
    have hlength : ((c :: row) :: rest).length = g.rows := hcells ▸ hshape.1
    have hwidth : (c :: row).length = g.cols :=
      hshape.2 (c :: row) (hcells ▸ List.mem_cons_self)
    rw [ofSnapshot, hlength, hwidth, new_natCast hrows hcols g.cols_le]
    · exact (restore_eq_ok_iff _ g _).mpr ⟨hcells ▸ hshape, rfl, rfl, hcells⟩
    · exact List.cons_ne_nil c row

/-- A grid is what a document of its contents describes, with whatever documents of cells that can
be read. -/
theorem ofJson_encoded {encode : Cell → Json}
    (hencode : ∀ c row col, Cell.ofJson row col (encode c) = .ok c) (g : Grid) :
    ofJson (g.snapshot.encoded encode) = .ok g := by
  rw [ofJson, snapshot, Snapshot.ofJson_encoded hencode g.shape g.rows_pos g.cols_pos]
  simp only [bind, Except.bind]
  rw [show ofSnapshot g.cells = .ok g from ofSnapshot_snapshot g]

/-- A grid is what its document describes, also with the fields of its cells sorted. -/
theorem ofJson_written (g : Grid) (sorted : Bool) :
    ofJson (if sorted then g.toJson.sortNames else g.toJson) = .ok g := by
  cases sorted with
  | false => exact ofJson_encoded Cell.ofJson_toJson g
  | true =>
    rw [if_pos rfl, toJson, Snapshot.sortNames_toJson]
    exact ofJson_encoded Cell.ofJson_sortNames_toJson g

theorem textual_written (g : Grid) (sorted : Bool) (limit : DepthLimit) :
    Textual limit.levels (if sorted then g.toJson.sortNames else g.toJson) := by
  obtain ⟨n, hn⟩ := Nat.exists_eq_add_of_le' limit.three_le
  rw [hn]
  cases sorted with
  | false => exact Snapshot.textual_encoded (fun c => c.textual_toJson n) g.snapshot
  | true =>
    rw [if_pos rfl, toJson, Snapshot.sortNames_toJson]
    exact Snapshot.textual_encoded (fun c => c.textual_sortNames_toJson n) g.snapshot

/-- The text that an editor saves is read back as the grid that was saved. -/
theorem read_write_default (g : Grid) (limit : DepthLimit) :
    read limit (g.write {}) = .ok g := by
  have hf : Format.IsPadded {} := ⟨nofun, nofun⟩
  rw [read, write, Json.read_write hf (g.textual_written false limit)]
  exact g.ofJson_written false

/-- **Grids survive being written and read**, whatever their cells hold: with or without escapes
beyond ASCII, with the fields of cells sorted or not, in any indentation and with any separators
that add nothing but padding. -/
theorem read_write_padded (g : Grid) {f : Format} (hf : f.IsPadded) (limit : DepthLimit) :
    read limit (g.write f) = .ok g := by
  rw [read, write, Json.read_write hf (g.textual_written f.sortNames limit)]
  exact g.ofJson_written f.sortNames

/-- Quotation mark, backslash, line end, line separator and a character beyond U+FFFF, in a layout
with every choice made. -/
theorem read_write_padded_escapes :
    Format.IsPadded ⟨some (.text "\t "), true, some (" ,\n", "\t: "), true⟩ ∧
      read .least
        (write ⟨1, 1, [[⟨"\"\\\n\u2028", "=😀\x7f"⟩]], by decide, by decide, by decide, by decide⟩
          ⟨some (.text "\t "), true, some (" ,\n", "\t: "), true⟩) =
      .ok ⟨1, 1, [[⟨"\"\\\n\u2028", "=😀\x7f"⟩]], by decide, by decide, by decide, by decide⟩ := by
  have hf : Format.IsPadded ⟨some (.text "\t "), true, some (" ,\n", "\t: "), true⟩ := by
    refine ⟨fun unit h => ?_, fun item name h => ?_⟩
    · cases h
      simp [IsPadding, isPadding]
    · cases h
      refine ⟨⟨[' '], ['\n'], ?_, ?_, ?_⟩, ⟨['\t'], [' '], ?_, ?_, ?_⟩⟩ <;>
        simp [IsPadding, isPadding]
  exact ⟨hf, read_write_padded _ hf .least⟩

end Grid

end Spreadsheet

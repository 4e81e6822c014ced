import Spreadsheet.Proofs.Sharing

/-!
Texts with surrogates.

The strings of a grid hold characters.  More generally a text is a row of code points, and there may
be surrogates among them.  `Json.writePoints` writes any such text as `Json.writeString` writes
characters, with everything escaped that is not printable ASCII, and `savedText` is what is saved of
cells that are known by their points: of the cells of a grid, it is the text of the grid
(`savedText_byPoints`).

A high surrogate before a low one is written as the one character that the two make up, so the two
are not told apart any more.  `Editor.load_joins_surrogates` says what is loaded instead.
-/

namespace Spreadsheet

namespace Text

/-- The code points of a text. -/
def points (s : String) : List Nat :=
  s.toList.map Char.toNat

/-- A high surrogate and a low one. -/
def IsPair (high low : Nat) : Prop :=
  (0xD800 ≤ high ∧ high < 0xDC00) ∧ 0xDC00 ≤ low ∧ low < 0xE000
deriving Decidable

/-- The point that a pair of surrogates makes up. -/
def joined (high low : Nat) : Nat :=
  0x10000 + (high - 0xD800) * 0x400 + (low - 0xDC00)

/-- The points of a text with every pair of surrogates made one. -/
def joinPairs : List Nat → List Nat
  | high :: low :: rest =>
    if IsPair high low then joined high low :: joinPairs rest else high :: joinPairs (low :: rest)
  | ps => ps

end Text

open Text (points IsPair joined joinPairs)

namespace Json

/-- A code point as it stands in a string of printable ASCII. -/
def writePoint (n : Nat) : List Char :=
  if n < 0x7F then writeChar true (Char.ofNat n) else codeEscape n

/-- A text in quotation marks. -/
def writePoints (ps : List Nat) : List Char :=
  '"' :: ps.flatMap writePoint ++ ['"']

theorem writeChar_of_le {c : Char} (h : 0x7F ≤ c.toNat) :
    writeChar true c = codeEscape c.toNat := by
  have hne : ∀ d : Char, d.toNat < 0x7F → c ≠ d := by
    rintro d hd rfl
    omega
  have hcontrol : ¬c.toNat < 0x20 := by omega
  rw [writeChar, if_neg (hne _ (by decide)), if_neg (hne _ (by decide)), if_neg (hne _ (by decide)),
    if_neg (hne _ (by decide)), if_neg (hne _ (by decide)), if_neg (hne _ (by decide)),
    if_neg (hne _ (by decide)), if_neg hcontrol, if_pos]
  simpa using h

theorem writePoint_toNat (c : Char) : writePoint c.toNat = writeChar true c := by
  rw [writePoint]
  split
  · rw [Char.ofNat_toNat]
  · next h => rw [writeChar_of_le (Nat.le_of_not_lt h)]

/-- The points of a string are written as the string is. -/
theorem writePoints_points (s : String) : writePoints (points s) = writeString true s := by
  rw [writePoints, writeString, points, List.flatMap_map]
  simp only [writePoint_toNat]

theorem writePoint_unit {n : Nat} (hle : 0x7F ≤ n) (hlt : n < 0x10000) :
    writePoint n = unitEscape n := by
  rw [writePoint, if_neg (Nat.not_lt.mpr hle), codeEscape, if_pos hlt]

/-- A pair of surrogates is written as the character beyond U+FFFF that it makes up. -/
theorem writePoint_joined {high low : Nat} (h : IsPair high low) :
    writePoint (joined high low) = writePoint high ++ writePoint low := by
  obtain ⟨⟨hhigh, hhigh'⟩, hlow, hlow'⟩ := h
  -- The two units that the joined point is escaped by are the surrogates again.
  have hfirst : 0xD800 + (joined high low - 0x10000) / 0x400 = high := by
    unfold joined
    omega
  have hsecond : 0xDC00 + (joined high low - 0x10000) % 0x400 = low := by
    unfold joined
    omega
  have hle : 0x10000 ≤ joined high low := by
    unfold joined
    omega
  rw [writePoint_unit (n := high) (by omega) (by omega), writePoint_unit (n := low) (by omega)
    (by omega), writePoint, if_neg (by omega), codeEscape, if_neg (by omega), hfirst, hsecond]

/-- Nothing that is written tells a pair from its character. -/
theorem writePoints_joinPairs (ps : List Nat) : writePoints (joinPairs ps) = writePoints ps := by
  have hflat : (joinPairs ps).flatMap writePoint = ps.flatMap writePoint := by
    fun_induction joinPairs ps with
    | case1 high low rest hpair ih =>
      rw [List.flatMap_cons, ih, writePoint_joined hpair, List.append_assoc]
      rfl
    | case2 high low rest _ ih =>
      rw [List.flatMap_cons, ih]
      rfl
    | case3 => rfl
  rw [writePoints, hflat, writePoints]

/-- Items in brackets, on one line. -/
def bracketed (items : List (List Char)) : List Char :=
  '[' :: [',', ' '].intercalate items ++ [']']

theorem render_append_renderItems (level : Nat) (item : Json) (items : List Json) :
    render {} level item ++ renderItems {} level items =
      [',', ' '].intercalate ((item :: items).map (render {} level)) := by
  -- The printer treats the first item apart, so the induction is on those behind it.
  induction items generalizing item with
  | nil => simp [renderItems]
  | cons next items ih =>
    rw [renderItems, List.append_assoc, ih next]
    simp [List.intercalate_cons_cons, Format.itemSeparator, Format.newline]

/-- A list in the layout that editors save in. -/
theorem render_array (level : Nat) (items : List Json) :
    render {} level (.array items) = bracketed (items.map (render {} (level + 1))) := by
  cases items with
  | nil => rfl
  | cons item items =>
    rw [bracketed, ← render_append_renderItems]
    simp [render, Format.newline]

end Json

open Json (Format writePoints writeString bracketed)

/-- A cell by the code points of its texts. -/
structure PointCell where
  value : List Nat
  formula : List Nat
deriving DecidableEq

/-- The cell by code points. -/
def Cell.byPoints (c : Cell) : PointCell :=
  ⟨points c.value, points c.formula⟩

namespace PointCell

/-- The cell with the pairs of surrogates in its texts made one. -/
def joined (c : PointCell) : PointCell :=
  ⟨joinPairs c.value, joinPairs c.formula⟩

/-- The document of the cell, on one line. -/
def write (c : PointCell) : List Char :=
  '{' :: writeString true "value" ++ [':', ' '] ++ writePoints c.value ++ [',', ' ']
    ++ writeString true "formula" ++ [':', ' '] ++ writePoints c.formula ++ ['}']

theorem write_byPoints (c : Cell) (level : Nat) :
    c.byPoints.write = Json.render {} level c.toJson := by
  simp [write, Cell.byPoints, Cell.toJson, Json.render, Json.renderFields, Format.itemSeparator,
    Format.nameSeparator, Format.newline, Json.writePoints_points]

theorem write_joined (c : PointCell) : c.joined.write = c.write := by
  rw [write, joined, Json.writePoints_joinPairs, Json.writePoints_joinPairs, write]

end PointCell

/-- What is saved of rows of cells. -/
def savedText (rows : List (List PointCell)) : String :=
  String.ofList (bracketed (rows.map fun row => bracketed (row.map PointCell.write)))

/-- A grid is saved as the points of its texts are. -/
theorem savedText_byPoints (g : Grid) :
    savedText (g.cells.map (·.map Cell.byPoints)) = g.write {} := by
  rw [savedText, Grid.write, Json.write]
  show _ = String.ofList (Json.render {} 0 (Snapshot.toJson g.cells))
  simp only [Snapshot.toJson, Json.render_array, List.map_map, Function.comp_def,
    ← PointCell.write_byPoints]

/-- Nothing that is saved tells a pair of surrogates from its character. -/
theorem savedText_joined (rows : List (List PointCell)) :
    savedText (rows.map (·.map PointCell.joined)) = savedText rows := by
  simp only [savedText, List.map_map, Function.comp_def, PointCell.write_joined]

namespace Editor

/-- **Pairs of surrogates are loaded as characters.**  Once their pairs are joined, the texts of the
cells that were saved may be those of a grid.  Then this grid is what an editor of its size
loads. -/
theorem load_joins_surrogates {s : Session} {rows : List (List PointCell)} {g : Grid}
    (hjoined : rows.map (·.map PointCell.joined) = g.cells.map (·.map Cell.byPoints))
    (hholds : s.host.store.Holds s.editor.storageKey (savedText rows))
    (hrows : g.rows = s.editor.grid.rows) (hcols : g.cols = s.editor.grid.cols) :
    ∃ t, load s = (.ok true, t) ∧ t.editor = { s.editor with grid := g } := by
  rw [← savedText_joined, hjoined, savedText_byPoints] at hholds
  obtain ⟨t, ht⟩ := load_of_holds hholds
  rw [if_pos ⟨hrows, hcols⟩] at ht
  exact ⟨t, ht⟩

/-- A formula that begins with a pair of surrogates, and an empty cell. -/
def pairedCells : List (List PointCell) :=
  [[⟨points "INVALID", points "=" ++ [0xD835, 0xDC00] ++ points "(A1:A1)"⟩, ⟨[], []⟩]]

/-- The cells with the pair made one. -/
def joinedGrid : Grid :=
  small.grid.put 0 0 ⟨"INVALID", "=𝐀(A1:A1)"⟩

/-- A store that holds what is saved of the cells. -/
def pairedHost : Host where
  store := .memory ⟨[("spreadsheet", savedText pairedCells)]⟩
  depthLimit := .least

/-- What is loaded is not what was saved: the formula has one character in place of the two. -/
theorem load_not_preserving :
    ∃ t, load ⟨small, pairedHost⟩ = (.ok true, t) ∧
      t.editor.grid.cells.map (·.map Cell.byPoints) ≠ pairedCells := by
  have hjoined : pairedCells.map (·.map PointCell.joined) =
      joinedGrid.cells.map (·.map Cell.byPoints) := by decide
  obtain ⟨t, hload, heditor⟩ :=
    load_joins_surrogates (s := ⟨small, pairedHost⟩) hjoined rfl rfl rfl
  refine ⟨t, hload, ?_⟩
  rw [heditor]
  decide

end Editor

end Spreadsheet

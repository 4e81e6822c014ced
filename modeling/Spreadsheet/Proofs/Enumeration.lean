import Mathlib.Data.List.Sort
import Spreadsheet.Proofs.Cells

/-!
The enumeration of a range.

A list enumerates a range if it is sorted, holds no cell twice and holds exactly the cells inside
(`Range.Enumerates`).  The cells of a range do, and they are the only list that does
(`Range.Enumerates.eq`), because sorted lists without repetition are told by what they hold.  A
range is told by the cells inside of it in turn: its corners are two of them and bound all others
(`Range.eq_of_mem_iff`).  **The cells of a range are its one enumeration**, as many as there are
places in the rectangle, and no other range has the same one (`Range.cells_enumerate`).
-/

namespace Spreadsheet

attribute [ext] CellRef

/-- Of two references one is less, unless they are the same. -/
theorem CellRef.lt_of_not_lt {a b : CellRef} (h : ¬b < a) (hne : a ≠ b) : a < b := by
  rw [Ne, CellRef.ext_iff] at hne
  rw [lt_iff] at h ⊢
  omega

namespace Range

variable {r r' : Range} {l l' : List CellRef}

theorem topLeft_mem (r : Range) : r.topLeft ∈ r :=
  ⟨⟨Int.le_refl _, r.row_le⟩, Int.le_refl _, r.col_le⟩

/-- A range is told by the cells inside: its corners are among them and bound all of them. -/
theorem eq_of_mem_iff (h : ∀ ref, ref ∈ r ↔ ref ∈ r') : r = r' := by
  -- Each corner of one range lies in the other.
  obtain ⟨⟨htop, -⟩, hleft, -⟩ := (h r.topLeft).mp r.topLeft_mem
  obtain ⟨⟨htop', -⟩, hleft', -⟩ := (h r'.topLeft).mpr r'.topLeft_mem
  obtain ⟨⟨-, hbottom⟩, -, hright⟩ := (h r.bottomRight).mp r.bottomRight_mem
  obtain ⟨⟨-, hbottom'⟩, -, hright'⟩ := (h r'.bottomRight).mpr r'.bottomRight_mem
  have hfirst : r.topLeft = r'.topLeft :=
    CellRef.ext (Int.le_antisymm htop' htop) (Int.le_antisymm hleft' hleft)
  have hlast : r.bottomRight = r'.bottomRight :=
    CellRef.ext (Int.le_antisymm hbottom hbottom') (Int.le_antisymm hright hright')
  cases r
  cases r'
  rw [mk.injEq]
  exact ⟨hfirst, hlast⟩

theorem natCast_rows (r : Range) : (r.rows : Int) = r.bottomRight.row - r.topLeft.row + 1 := by
  have := r.row_le
  simp only [rows]
  omega

theorem natCast_cols (r : Range) : (r.cols : Int) = r.bottomRight.col - r.topLeft.col + 1 := by
  have := r.col_le
  simp only [cols]
  omega

/-- The list goes through the range in order: it is sorted, holds no cell twice and misses none. -/
structure Enumerates (r : Range) (l : List CellRef) : Prop where
  sorted : l.Pairwise fun a b => ¬b < a
  nodup : l.Nodup
  mem_iff : ∀ ref, ref ∈ l ↔ ref ∈ r

theorem Enumerates.pairwise_lt (h : r.Enumerates l) : l.Pairwise (· < ·) :=
  (h.sorted.and h.nodup).imp fun hab => CellRef.lt_of_not_lt hab.1 hab.2

theorem enumerates_cells (r : Range) : r.Enumerates r.cells where
  sorted := r.pairwise_cells.imp CellRef.lt_asymm
  nodup := r.pairwise_cells.imp CellRef.ne_of_lt
  mem_iff := fun ref => mem_cells_iff ref r

/-- A range has one enumeration. -/
theorem Enumerates.eq (h : r.Enumerates l) (h' : r.Enumerates l') : l = l' :=
  h.pairwise_lt.eq_of_mem_iff h'.pairwise_lt fun ref => (h.mem_iff ref).trans (h'.mem_iff ref).symm

/-- A list is the enumeration of one range. -/
theorem Enumerates.range_eq (h : r.Enumerates l) (h' : r'.Enumerates l) : r = r' :=
  eq_of_mem_iff fun ref => (h.mem_iff ref).symm.trans (h'.mem_iff ref)

/-- **The cells of a range are its one enumeration.**  They increase, row first; they are exactly
those inside, at least one, as many as the rows times the columns; every list that goes through the
range in order is this one; and it is the enumeration of no other range. -/
theorem cells_enumerate (r : Range) :
    r.cells.Pairwise (· < ·) ∧
      (∀ ref, ref ∈ r.cells ↔ ref ∈ r) ∧
      (r.cells.length = r.rows * r.cols ∧ 1 ≤ r.rows * r.cols ∧
        (r.rows : Int) = r.bottomRight.row - r.topLeft.row + 1 ∧
        (r.cols : Int) = r.bottomRight.col - r.topLeft.col + 1) ∧
      (∀ l, r.Enumerates l ↔ l = r.cells) ∧
      ∀ r', r = r' ↔ r.cells = r'.cells := by
  have hpos : 1 ≤ r.rows * r.cols := Nat.mul_pos r.rows_pos r.cols_pos
  refine ⟨r.pairwise_cells, fun ref => mem_cells_iff ref r,
    ⟨r.length_cells, hpos, r.natCast_rows, r.natCast_cols⟩, fun l => ?_, fun r' => ?_⟩
  · constructor
    · intro h
      exact h.eq r.enumerates_cells
    · rintro rfl
      exact r.enumerates_cells
  · constructor
    · rintro rfl
      rfl
    · intro h
      exact r.enumerates_cells.range_eq (h ▸ r'.enumerates_cells)

/-- Corners may lie outside of every sheet. -/
example : (Range.mk ⟨-1, 25⟩ ⟨0, 26⟩ (by decide) (by decide)).cells =
    [⟨-1, 25⟩, ⟨-1, 26⟩, ⟨0, 25⟩, ⟨0, 26⟩] := rfl

end Range

end Spreadsheet

import Spreadsheet.Reference.Reader

/-!
What a search for a range finds.

The search takes corners as they stand in a text: a capital letter and the digits after it, as many
as there are.  `Range.isCorner_of_search?` says that what it finds has this form, and
`Range.takeCorner?_isCorner` that a corner is found where there is one.  `CellRef.read_corner` says
how a corner is read: its row number may be too long to be read, or zero.
-/

namespace Spreadsheet

open Number (TooManyDigits maxDigits digitsValue readNatural_of_lt_length
  readNatural_of_length_le)

/-- A capital letter and one or more digits. -/
def IsCorner (cs : List Char) : Prop :=
  ∃ letter digits, cs = letter :: digits ∧ letter.isUpper = true ∧ digits ≠ [] ∧
    ∀ c ∈ digits, c.isDigit = true

/-- The digits of a corner's row number. -/
def rowDigits (corner : List Char) : List Char :=
  corner.drop 1

/-- The codes of capital letters follow each other. -/
theorem toNat_of_isUpper {letter : Char} (h : letter.isUpper = true) :
    'A'.toNat ≤ letter.toNat ∧ letter.toNat < 'A'.toNat + maxCols := by
  obtain ⟨hfirst, hlast⟩ : 'A'.val ≤ letter.val ∧ letter.val ≤ 'Z'.val := of_decide_eq_true h
  have hwidth : 'Z'.val.toNat < 'A'.toNat + maxCols := by decide
  exact ⟨UInt32.le_iff_toNat_le.mp hfirst,
    Nat.lt_of_le_of_lt (UInt32.le_iff_toNat_le.mp hlast) hwidth⟩

namespace Range

/-- What is taken off the front is a corner, and nothing is lost. -/
theorem takeCorner?_eq_some {cs corner rest : List Char}
    (h : takeCorner? cs = some (corner, rest)) : IsCorner corner ∧ cs = corner ++ rest := by
  cases cs with
  | nil => cases h
  | cons letter cs =>
    rw [takeCorner?] at h
    by_cases hc : letter.isUpper && !(cs.takeWhile Char.isDigit).isEmpty
    · rw [if_pos hc, Option.some_inj, Prod.mk.injEq] at h
      obtain ⟨rfl, rfl⟩ := h
      rw [Bool.and_eq_true, Bool.not_eq_true', List.isEmpty_eq_false_iff] at hc
      refine ⟨⟨letter, _, rfl, hc.1, hc.2, fun c hc => List.all_eq_true.mp
        List.all_takeWhile c hc⟩, ?_⟩
      rw [List.cons_append, List.takeWhile_append_dropWhile]
    · rw [if_neg hc] at h
      cases h

/-- A corner is taken with all digits that follow it. -/
theorem takeCorner?_isCorner {corner : List Char} (h : IsCorner corner) (rest : List Char) :
    takeCorner? (corner ++ rest) =
      some (corner ++ rest.takeWhile Char.isDigit, rest.dropWhile Char.isDigit) := by
  obtain ⟨letter, digits, rfl, hletter, hne, hdigits⟩ := h
  rw [List.cons_append, takeCorner?, List.takeWhile_append_of_pos hdigits,
    List.dropWhile_append_of_pos hdigits]
  simp [hletter, hne]

theorem isCorner_of_takeRange? {cs first last : List Char}
    (h : takeRange? cs = some (first, last)) : IsCorner first ∧ IsCorner last := by
  rw [takeRange?] at h
  split at h
  · next corner rest hfirst =>
    obtain ⟨⟨corner', rest'⟩, hlast, heq⟩ := Option.map_eq_some_iff.mp h
    rw [Prod.mk.injEq] at heq
    obtain ⟨rfl, rfl⟩ := heq
    exact ⟨(takeCorner?_eq_some hfirst).1, (takeCorner?_eq_some hlast).1⟩
  · cases h

/-- What a search finds has the form of a range reference. -/
theorem isCorner_of_search? {cs first last : List Char}
    (h : search? cs = some (first, last)) : IsCorner first ∧ IsCorner last := by
  induction cs with
  | nil => cases h
  | cons c cs ih =>
    rw [search?] at h
    cases hrange : takeRange? (c :: cs) with
    | none =>
      rw [hrange] at h
      exact ih h
    | some corners =>
      rw [hrange, Option.some_inj] at h
      rw [h] at hrange
      exact isCorner_of_takeRange? hrange

end Range

namespace CellRef

/-- A corner is read unless its row number is too long or zero. -/
theorem read_corner {corner : List Char} (h : IsCorner corner) :
    read (String.ofList corner) =
      if maxDigits < (rowDigits corner).length then
        .error (.tooManyDigits ⟨(rowDigits corner).length⟩)
      else if digitsValue (rowDigits corner) = 0 then .error (.rowZero (String.ofList corner))
      else .ok ⟨digitsValue (rowDigits corner) - 1, columnOf (corner.headD 'A')⟩ := by
  obtain ⟨letter, digits, rfl, hletter, hne, hdigits⟩ := h
  have hform : (letter.isUpper && !digits.isEmpty && digits.all Char.isDigit) = true := by
    rw [hletter, List.isEmpty_eq_false_iff.mpr hne, List.all_eq_true.mpr hdigits]
    rfl
  simp only [read, String.toList_ofList, hform, if_true, rowDigits, List.drop_one, List.tail_cons]
  by_cases hlong : maxDigits < digits.length
  · rw [if_pos hlong, readNatural_of_lt_length hlong]
  · rw [if_neg hlong, readNatural_of_length_le (Nat.le_of_not_lt hlong)]
    cases hvalue : digitsValue digits with
    | zero => rfl
    | succ row => simp

end CellRef

end Spreadsheet

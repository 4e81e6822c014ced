import Mathlib.Data.List.Induction
import Spreadsheet.Proofs.Verdict

/-!
Names of references.

A reference has a name, its A1 form: the letter of its column and its row number, counted from one.
What is read as a reference is such a name, with zeros in front of the row number or without them.
`CellRef.read_toA1` says that a name is read as the reference that it names, and `toA1_cornerRef`
that a reference is named by the text it was read from, once its zeros are left out.  Both carry
over to ranges, whose names are two names with a colon between them.  `reference_grammar` adds what
is refused, and why.
-/

namespace Spreadsheet

open Formula (IsLong)
open Number (TooManyDigits maxDigits digitsValue digitCount)

/-! ### Digits without zeros in front -/

/-- A digit is the character of a number below ten. -/
theorem exists_digitChar_eq {c : Char} (h : c.isDigit = true) : ∃ d < 10, d.digitChar = c := by
  rw [Char.isDigit_iff_toNat] at h
  have hzero : '0'.toNat = 48 := rfl
  have hnine : '9'.toNat = 57 := rfl
  have hlt : c.toNat - 48 < 10 := by omega
  refine ⟨c.toNat - 48, hlt, ?_⟩
  rw [← Char.toNat_inj, Nat.toNat_digitChar_of_lt_ten hlt]
  omega

theorem digitsValue_append_digitChar (digits : List Char) {d : Nat} (h : d < 10) :
    digitsValue (digits ++ [d.digitChar]) = 10 * digitsValue digits + d := by
  rw [digitsValue, Nat.ofDigitChars_append, Nat.ofDigitChars_cons_digitChar_of_lt_ten h,
    Nat.ofDigitChars_nil]
  rfl

/-- Without the zeros in front, digits are those of the number that they denote; of zero nothing is
left. -/
theorem dropWhile_zeros {digits : List Char} (h : ∀ c ∈ digits, c.isDigit = true) :
    digits.dropWhile (· == '0') =
      if digitsValue digits = 0 then [] else Nat.toDigits 10 (digitsValue digits) := by
  induction digits using List.reverseRecOn with
  | nil => rfl
  | append_singleton digits c ih =>
    obtain ⟨d, hlt, rfl⟩ :=
      exists_digitChar_eq (h c (List.mem_append_right digits List.mem_cons_self))
    rw [List.dropWhile_append, ih fun c hc => h c (List.mem_append_left _ hc),
      digitsValue_append_digitChar digits hlt]
    by_cases hzero : digitsValue digits = 0
    · -- So far there are only zeros, and this digit may be one more.
      rw [if_pos hzero, hzero, Nat.mul_zero, Nat.zero_add]
      by_cases hd : d = 0
      · rw [if_pos hd, hd]
        rfl
      · have hne : d.digitChar ≠ '0' := fun heq => hd (Nat.digitChar_eq_zero.mp heq)
        rw [if_neg hd, Nat.toDigits_of_lt_base hlt]
        simp [hne]
    · have hdigits := Nat.toDigits_append_toDigits (by decide : 1 < 10)
        (Nat.pos_of_ne_zero hzero) hlt
      have hnonzero : 10 * digitsValue digits + d ≠ 0 := by omega
      rw [Nat.toDigits_of_lt_base hlt] at hdigits
      rw [if_neg hzero, if_neg hnonzero, ← hdigits]
      simp

/-- A number has at most so many digits exactly if it is below that power of ten. -/
theorem digitCount_le_iff (n : Nat) {k : Nat} (hk : 0 < k) :
    digitCount n ≤ k ↔ n < Nat.pow 10 k :=
  Nat.length_toDigits_le_iff (by decide) hk

/-! ### Letters -/

/-- A capital letter names a column. -/
theorem columnOf_lt {letter : Char} (h : letter.isUpper = true) : columnOf letter < maxCols := by
  have hletter := toNat_of_isUpper h
  rw [columnOf]
  omega

/-- A capital letter is the letter of its column. -/
theorem letterOf_columnOf {letter : Char} (h : letter.isUpper = true) :
    letterOf (columnOf letter) = letter := by
  rw [letterOf, columnOf, Nat.add_sub_cancel' (toNat_of_isUpper h).1, Char.ofNat_toNat]

/-! ### Names of cells -/

/-- The text of a cell: a corner whose row number is neither too long nor zero. -/
def IsCellText (cs : List Char) : Prop :=
  IsCorner cs ∧ ¬IsLong cs ∧ rowNumber cs ≠ 0

/-- The text of a corner whose row number is too long. -/
def IsOverlong (cs : List Char) : Prop :=
  IsCorner cs ∧ IsLong cs

/-- The cell of a corner. -/
def cornerRef (cs : List Char) : CellRef :=
  ⟨rowNumber cs - 1, columnNumber cs⟩

/-- A corner without the zeros in front of its row number. -/
def plainCorner (cs : List Char) : List Char :=
  cs.take 1 ++ (rowDigits cs).dropWhile (· == '0')

namespace CellRef

/-- A cell that has a name which can be read. -/
def IsNamed (ref : CellRef) : Prop :=
  (0 ≤ ref.row ∧ ref.row + 1 < Nat.pow 10 maxDigits) ∧ 0 ≤ ref.col ∧ ref.col < maxCols

/-- The name of a cell: the letter of its column and the digits of its row. -/
theorem toA1_eq (row : Nat) {col : Nat} (h : col < maxCols) :
    toA1 ⟨row, col⟩ = .ok (String.ofList (letterOf col :: Nat.toDigits 10 (row + 1))) := by
  have hcol : (0 : Int) ≤ col ∧ (col : Int) < maxCols := ⟨Int.natCast_nonneg col, by omega⟩
  have hrow : toString ((row : Int) + 1) = String.ofList (Nat.toDigits 10 (row + 1)) := by
    rw [← Nat.toString_eq_ofList_toDigits]
    rfl
  rw [toA1, columnLetter, if_pos hcol, Except.map, hrow, Int.toNat_natCast, Except.ok.injEq,
    ← String.toList_inj]
  simp

theorem isCorner_name (row : Nat) {col : Nat} (h : col < maxCols) :
    IsCorner (letterOf col :: Nat.toDigits 10 (row + 1)) :=
  ⟨_, _, rfl, isUpper_letterOf h, Nat.toDigits_ne_nil,
    fun _ hc => Nat.isDigit_of_mem_toDigits (by decide) (by decide) hc⟩

/-- A text that is no corner is malformed. -/
theorem read_of_not_isCorner {text : String} (h : ¬IsCorner text.toList) :
    read text = .error (.malformed text) := by
  rw [read]
  split
  · rfl
  · next letter digits htext =>
    have hform : ¬(letter.isUpper && !digits.isEmpty && digits.all Char.isDigit) = true := by
      intro hform
      rw [Bool.and_eq_true, Bool.and_eq_true, Bool.not_eq_true', List.isEmpty_eq_false_iff,
        List.all_eq_true] at hform
      exact h ⟨letter, digits, htext, hform.1.1, hform.1.2, hform.2⟩
    rw [if_neg hform]

/-- What becomes of a text that is to be read as a cell. -/
inductive Reading (text : String) : Except ReferenceError CellRef → Prop where
  | cell (h : IsCellText text.toList) : Reading text (.ok (cornerRef text.toList))
  | overlong (h : IsOverlong text.toList) :
    Reading text (.error (.tooManyDigits ⟨(rowDigits text.toList).length⟩))
  | rowZero (h : IsCorner text.toList ∧ ¬IsLong text.toList ∧ rowNumber text.toList = 0) :
    Reading text (.error (.rowZero text))
  | malformed (h : ¬IsCorner text.toList) : Reading text (.error (.malformed text))

theorem reading (text : String) : Reading text (read text) := by
  by_cases hcorner : IsCorner text.toList
  · have hread := read_corner hcorner
    rw [String.ofList_toList] at hread
    by_cases hlong : maxDigits < (rowDigits text.toList).length
    · rw [hread, if_pos hlong]
      exact .overlong ⟨hcorner, hlong⟩
    · by_cases hzero : digitsValue (rowDigits text.toList) = 0
      · rw [hread, if_neg hlong, if_pos hzero]
        exact .rowZero ⟨hcorner, hlong, hzero⟩
      · rw [hread, if_neg hlong, if_neg hzero]
        exact .cell ⟨hcorner, hlong, hzero⟩
  · rw [read_of_not_isCorner hcorner]
    exact .malformed hcorner

/-- What is read as a cell are the texts of cells, and they are read as their own. -/
theorem read_eq_ok_iff (text : String) (ref : CellRef) :
    read text = .ok ref ↔ IsCellText text.toList ∧ ref = cornerRef text.toList := by
  have hreading := reading text
  generalize read text = answer at hreading ⊢
  cases hreading with
  | cell h =>
    rw [Except.ok.injEq, eq_comm]
    exact (and_iff_right h).symm
  | overlong h => exact ⟨nofun, fun hcell => absurd h.2 hcell.1.2.1⟩
  | rowZero h => exact ⟨nofun, fun hcell => absurd h.2.2 hcell.1.2.2⟩
  | malformed h => exact ⟨nofun, fun hcell => absurd hcell.1.1 h⟩

/-- Reading stops at a row number exactly if the text is a corner and its row number is too long. -/
theorem read_eq_tooManyDigits_iff (text : String) (e : TooManyDigits) :
    read text = .error (.tooManyDigits e) ↔
      IsOverlong text.toList ∧ e.digits = (rowDigits text.toList).length := by
  obtain ⟨digits⟩ := e
  have hreading := reading text
  generalize read text = answer at hreading ⊢
  cases hreading with
  | cell h => exact ⟨nofun, fun hlong => absurd hlong.1.2 h.2.1⟩
  | overlong h =>
    simp only [Except.error.injEq, ReferenceError.tooManyDigits.injEq, TooManyDigits.mk.injEq]
    rw [eq_comm]
    exact (and_iff_right h).symm
  | rowZero h => exact ⟨nofun, fun hlong => absurd hlong.1.2 h.2.1⟩
  | malformed h => exact ⟨nofun, fun hlong => absurd hlong.1.1 h⟩

/-- The name of a cell is read as the cell. -/
theorem read_toA1 {ref : CellRef} (h : ref.IsNamed) :
    ∃ name, ref.toA1 = .ok name ∧ read name = .ok ref := by
  obtain ⟨⟨hrow, hshort⟩, hcol, hcol'⟩ := h
  obtain ⟨row, col⟩ := ref
  obtain ⟨row, rfl⟩ := Int.eq_ofNat_of_zero_le hrow
  obtain ⟨col, rfl⟩ := Int.eq_ofNat_of_zero_le hcol
  dsimp only at hshort hcol'
  have hlt : col < maxCols := Int.ofNat_lt.mp hcol'
  have hlength := (digitCount_le_iff (row + 1) (by decide)).mpr (Int.ofNat_lt.mp hshort)
  have hnumber : rowNumber (letterOf col :: Nat.toDigits 10 (row + 1)) = row + 1 :=
    Number.digitsValue_toDigits (row + 1)
  refine ⟨_, toA1_eq row hlt, (read_eq_ok_iff _ _).mpr ?_⟩
  rw [String.toList_ofList, cornerRef, hnumber, columnNumber, List.headD_cons,
    columnOf_letterOf hlt]
  refine ⟨⟨isCorner_name row hlt, Nat.not_lt.mpr hlength, ?_⟩, ?_⟩
  · rw [hnumber]
    exact Nat.succ_ne_zero row
  · simp

end CellRef

/-- A cell is named by the corner that it was read from, without the zeros. -/
theorem toA1_cornerRef {cs : List Char} (h : IsCellText cs) :
    (cornerRef cs).toA1 = .ok (String.ofList (plainCorner cs)) := by
  obtain ⟨⟨letter, digits, rfl, hletter, _, hdigits⟩, _, hzero⟩ := h
  have hvalue : digitsValue digits ≠ 0 := hzero
  obtain ⟨row, hrow⟩ := Nat.exists_eq_succ_of_ne_zero hvalue
  have hplain : plainCorner (letter :: digits) = letter :: Nat.toDigits 10 (row + 1) := by
    have hdrop := dropWhile_zeros hdigits
    rw [if_neg hvalue, hrow] at hdrop
    exact congrArg (letter :: ·) hdrop
  have href : cornerRef (letter :: digits) = ⟨row, columnOf letter⟩ := by
    have hnumber : rowNumber (letter :: digits) = row + 1 := hrow
    rw [cornerRef, hnumber]
    simp [columnNumber]
  rw [href, CellRef.toA1_eq row (columnOf_lt hletter), letterOf_columnOf hletter, hplain]

/-! ### Names of ranges -/

namespace Range

/-- Corners make a range exactly if both are read as cells, and in this order. -/
theorem readCorners_eq_ok_iff_read (first last : String) (r : Range) :
    readCorners first last = .ok r ↔
      CellRef.read first = .ok r.topLeft ∧ CellRef.read last = .ok r.bottomRight := by
  rw [readCorners]
  cases hfirst : CellRef.read first with
  | error e => simp [bind, Except.bind]
  | ok a =>
    cases hlast : CellRef.read last with
    | error e => simp [bind, Except.bind]
    | ok b =>
      simp only [bind, Except.bind, between_eq_ok_iff, Except.ok.injEq]
      constructor
      · rintro ⟨_, rfl, rfl⟩
        exact ⟨rfl, rfl⟩
      · rintro ⟨rfl, rfl⟩
        exact ⟨⟨r.row_le, r.col_le⟩, rfl, rfl⟩

/-- Reading two corners stops at a row number only if reading one of them does. -/
theorem isOverlong_of_readCorners {first last : String} {e : TooManyDigits}
    (h : readCorners first last = .error (.tooManyDigits e)) :
    IsOverlong first.toList ∨ IsOverlong last.toList := by
  rw [readCorners] at h
  cases hfirst : CellRef.read first with
  | error e' =>
    rw [hfirst] at h
    cases h
    exact .inl ((CellRef.read_eq_tooManyDigits_iff first e).mp hfirst).1
  | ok a =>
    cases hlast : CellRef.read last with
    | error e' =>
      rw [hfirst, hlast] at h
      cases h
      exact .inr ((CellRef.read_eq_tooManyDigits_iff last e).mp hlast).1
    | ok b =>
      rw [hfirst, hlast] at h
      exact absurd h (Formula.between_ne_tooManyDigits first last a b e)

/-- A text without a colon, or with several, is no range reference. -/
theorem read_of_count {text : String} (h : text.toList.count ':' ≠ 1) :
    read text = .error (.notTwoParts text) := by
  rw [read]
  split
  · next last hdrop =>
    split
    · rfl
    · next hlast =>
      -- This colon would be the only one.
      exfalso
      have hfirst : ':' ∉ text.toList.takeWhile (· != ':') := by
        intro hmem
        have hne := List.all_eq_true.mp List.all_takeWhile _ hmem
        exact absurd hne (by decide)
      have hsplit := List.takeWhile_append_dropWhile (p := (· != ':')) (l := text.toList)
      rw [hdrop] at hsplit
      rw [← hsplit, List.count_append, List.count_cons_self, List.count_eq_zero_of_not_mem hfirst,
        List.count_eq_zero_of_not_mem hlast] at h
      exact h rfl
  · rfl

section Split

variable {text : String} {first last : List Char}

/-- A text with one colon is read as a range exactly if both sides are texts of cells, in this
order. -/
theorem read_eq_ok_iff_of_split (htext : text.toList = first ++ ':' :: last)
    (hfirst : ':' ∉ first) (hlast : ':' ∉ last) (r : Range) :
    read text = .ok r ↔ (IsCellText first ∧ r.topLeft = cornerRef first) ∧
      IsCellText last ∧ r.bottomRight = cornerRef last := by
  rw [← String.ofList_toList (s := text), htext, read_split hfirst hlast,
    readCorners_eq_ok_iff_read, CellRef.read_eq_ok_iff, CellRef.read_eq_ok_iff,
    String.toList_ofList, String.toList_ofList]

/-- What is read as a range has one colon, with the text of a cell on both sides. -/
theorem exists_split_of_read {r : Range} (h : read text = .ok r) :
    ∃ first last, text.toList = first ++ ':' :: last ∧
      (IsCellText first ∧ r.topLeft = cornerRef first) ∧
      IsCellText last ∧ r.bottomRight = cornerRef last := by
  obtain ⟨first, last, hfirst, hlast, htext⟩ := isRangeText_of_read h
  exact ⟨first, last, htext,
    (read_eq_ok_iff_of_split htext hfirst.not_mem_colon hlast.not_mem_colon r).mp h⟩

/-- A text with one colon, and with no row number that is too long, is refused for another reason
if a side is no corner, or the corners make no range. -/
theorem read_of_defect (htext : text.toList = first ++ ':' :: last) (hfirst : ':' ∉ first)
    (hlast : ':' ∉ last) (hshort : ¬IsOverlong first ∧ ¬IsOverlong last)
    (hdefect : ¬IsCorner first ∨ ¬IsCorner last ∨ IsRefused first last) :
    ∃ e, read text = .error e ∧ ∀ limit, e ≠ .tooManyDigits limit := by
  cases hread : read text with
  | ok r =>
    obtain ⟨⟨hcell, htop⟩, hcell', hbottom⟩ :=
      (read_eq_ok_iff_of_split htext hfirst hlast r).mp hread
    have hrow := r.row_le
    have hcol := r.col_le
    rw [htop, hbottom, cornerRef, cornerRef] at hrow hcol
    dsimp only at hrow hcol
    rcases hdefect with hno | hno | hzero | hzero | hreversed | hreversed
    · exact absurd hcell.1 hno
    · exact absurd hcell'.1 hno
    · exact absurd hzero hcell.2.2
    · exact absurd hzero hcell'.2.2
    · omega
    · omega
  | error e =>
    refine ⟨e, rfl, ?_⟩
    rintro limit rfl
    rw [← String.ofList_toList (s := text), htext, read_split hfirst hlast] at hread
    have hlong := isOverlong_of_readCorners hread
    rw [String.toList_ofList, String.toList_ofList] at hlong
    rcases hlong with hlong | hlong
    · exact hshort.1 hlong
    · exact hshort.2 hlong

end Split

/-- The name of a range. -/
theorem toA1_of_corners {r : Range} {first last : String} (hfirst : r.topLeft.toA1 = .ok first)
    (hlast : r.bottomRight.toA1 = .ok last) : r.toA1 = .ok (first ++ ":" ++ last) := by
  rw [toA1, hfirst, hlast]
  rfl

/-- The name of a range is read as the range. -/
theorem read_toA1 {r : Range} (hfirst : r.topLeft.IsNamed) (hlast : r.bottomRight.IsNamed) :
    ∃ name, r.toA1 = .ok name ∧ read name = .ok r := by
  obtain ⟨first, hfirst, hread⟩ := CellRef.read_toA1 hfirst
  obtain ⟨last, hlast, hread'⟩ := CellRef.read_toA1 hlast
  refine ⟨_, toA1_of_corners hfirst hlast, ?_⟩
  have hname : first ++ ":" ++ last = String.ofList (first.toList ++ ':' :: last.toList) := by
    rw [← String.toList_inj]
    simp
  rw [hname, read_split (CellRef.isCorner_of_read hread).not_mem_colon
    (CellRef.isCorner_of_read hread').not_mem_colon, String.ofList_toList, String.ofList_toList,
    readCorners_eq_ok_iff_read]
  exact ⟨hread, hread'⟩

/-- What is read as a range is named by the text, without the zeros of its row numbers. -/
theorem toA1_of_read {text : String} {r : Range} (h : read text = .ok r) :
    ∃ first last, text.toList = first ++ ':' :: last ∧ (IsCellText first ∧ IsCellText last) ∧
      r.toA1 = .ok (String.ofList (plainCorner first ++ ':' :: plainCorner last)) := by
  obtain ⟨first, last, htext, ⟨hcell, htop⟩, hcell', hbottom⟩ := exists_split_of_read h
  have hfirst := toA1_cornerRef hcell
  have hlast := toA1_cornerRef hcell'
  rw [← htop] at hfirst
  rw [← hbottom] at hlast
  refine ⟨first, last, htext, ⟨hcell, hcell'⟩, ?_⟩
  rw [toA1_of_corners hfirst hlast, Except.ok.injEq, ← String.toList_inj]
  simp

end Range

/-- **What is read as a reference, and how references are named.**  A text is read as a cell exactly
if it is a capital letter with digits that are neither too many nor those of zero; too many digits
are told apart from all else that is refused.  The name of a cell is read as the cell, and a text
that is read as a cell is its name, up to zeros in front of the row number.  All this carries over
to ranges.  A text without a colon or with several is no range, nor is one with a side that is no
corner, with a row of zero, or with its corners in the wrong order. -/
theorem reference_grammar :
    (∀ text ref, CellRef.read text = .ok ref ↔
      IsCellText text.toList ∧ ref = cornerRef text.toList) ∧
    (∀ text, IsOverlong text.toList →
      CellRef.read text = .error (.tooManyDigits ⟨(rowDigits text.toList).length⟩)) ∧
    (∀ text, ¬IsCellText text.toList → ¬IsOverlong text.toList →
      CellRef.read text = .error (.rowZero text) ∨ CellRef.read text = .error (.malformed text)) ∧
    (∀ ref : CellRef, ref.IsNamed → ∃ name, ref.toA1 = .ok name ∧ CellRef.read name = .ok ref) ∧
    (∀ text ref, CellRef.read text = .ok ref →
      ref.toA1 = .ok (String.ofList (plainCorner text.toList))) ∧
    (∀ r : Range, r.topLeft.IsNamed → r.bottomRight.IsNamed →
      ∃ name, r.toA1 = .ok name ∧ Range.read name = .ok r) ∧
    (∀ text r, Range.read text = .ok r → ∃ first last, text.toList = first ++ ':' :: last ∧
      (IsCellText first ∧ IsCellText last) ∧
      r.toA1 = .ok (String.ofList (plainCorner first ++ ':' :: plainCorner last))) ∧
    (∀ text : String, text.toList.count ':' ≠ 1 → Range.read text = .error (.notTwoParts text)) ∧
    ∀ (text : String) first last, text.toList = first ++ ':' :: last → ':' ∉ first → ':' ∉ last →
      ¬IsOverlong first ∧ ¬IsOverlong last →
      ¬IsCorner first ∨ ¬IsCorner last ∨ IsRefused first last →
      ∃ e, Range.read text = .error e ∧ ∀ limit, e ≠ .tooManyDigits limit := by
  refine ⟨CellRef.read_eq_ok_iff, ?_, ?_, fun _ h => CellRef.read_toA1 h, ?_,
    fun _ h h' => Range.read_toA1 h h', fun _ _ h => Range.toA1_of_read h,
    fun _ h => Range.read_of_count h, fun _ _ _ => Range.read_of_defect⟩
  · intro text hlong
    exact (CellRef.read_eq_tooManyDigits_iff text _).mpr ⟨hlong, rfl⟩
  · intro text hcell hlong
    have hreading := CellRef.reading text
    generalize CellRef.read text = answer at hreading ⊢
    cases hreading with
    | cell h => exact absurd h hcell
    | overlong h => exact absurd h hlong
    | rowZero h => exact .inl rfl
    | malformed h => exact .inr rfl
  · intro text ref hread
    obtain ⟨hcell, rfl⟩ := (CellRef.read_eq_ok_iff text ref).mp hread
    exact toA1_cornerRef hcell

/-- A corner with a row number of one digit too many. -/
def longCorner : List Char :=
  'A' :: List.replicate (maxDigits + 1) '1'

theorem length_rowDigits_longCorner : (rowDigits longCorner).length = maxDigits + 1 :=
  List.length_replicate

theorem isOverlong_longCorner : IsOverlong longCorner := by
  refine ⟨⟨'A', List.replicate (maxDigits + 1) '1', rfl, rfl, ?_, ?_⟩, ?_⟩
  · rw [List.replicate_succ]
    exact List.cons_ne_nil _ _
  · intro c hc
    rw [List.eq_of_mem_replicate hc]
    rfl
  · rw [IsLong, length_rowDigits_longCorner]
    exact Nat.lt_succ_self maxDigits

/-- Zeros in front of a row number, a row of zero, one digit too many, two colons, and corners in
the wrong order. -/
theorem reference_grammar_padded :
    (CellRef.read "C0012" = .ok ⟨11, 2⟩ ∧ CellRef.toA1 ⟨11, 2⟩ = .ok "C12") ∧
    (CellRef.IsNamed ⟨11, 2⟩ ∧ CellRef.IsNamed ⟨0, 0⟩ ∧
      ∃ name, Range.toA1 ⟨⟨0, 0⟩, ⟨11, 2⟩, by decide, by decide⟩ = .ok name ∧
        Range.read name = .ok ⟨⟨0, 0⟩, ⟨11, 2⟩, by decide, by decide⟩) ∧
    (¬IsCellText "A0".toList ∧ ¬IsOverlong "A0".toList ∧
      (CellRef.read "A0" = .error (.rowZero "A0") ∨
        CellRef.read "A0" = .error (.malformed "A0"))) ∧
    (IsOverlong longCorner ∧
      CellRef.read (String.ofList longCorner) = .error (.tooManyDigits ⟨maxDigits + 1⟩)) ∧
    ("A1:B2:C3".toList.count ':' ≠ 1 ∧
      Range.read "A1:B2:C3" = .error (.notTwoParts "A1:B2:C3")) ∧
    IsRefused "B2".toList "A1".toList ∧
      ∃ e, Range.read "B2:A1" = .error e ∧ ∀ limit, e ≠ .tooManyDigits limit := by
  obtain ⟨_, hlong, hother, _, hname, hrange, _, hcolons, hdefect⟩ := reference_grammar
  have hshort : ∀ n, digitCount n ≤ maxDigits → n < Nat.pow 10 maxDigits :=
    fun n => (digitCount_le_iff n (by decide)).mp
  have hnamed : CellRef.IsNamed ⟨11, 2⟩ :=
    ⟨⟨by decide, Int.ofNat_lt.mpr (hshort 12 (by decide))⟩, by decide, by decide⟩
  have hnamed' : CellRef.IsNamed ⟨0, 0⟩ :=
    ⟨⟨by decide, Int.ofNat_lt.mpr (hshort 1 (by decide))⟩, by decide, by decide⟩
  have hread : CellRef.read "C0012" = .ok ⟨11, 2⟩ := rfl
  have hzero : ¬IsCellText "A0".toList := fun h => h.2.2 rfl
  have hfew : ¬IsOverlong "A0".toList := fun h => absurd h.2 (by decide)
  have hrefused : IsRefused "B2".toList "A1".toList := by decide
  refine ⟨⟨hread, hname _ _ hread⟩, ⟨hnamed, hnamed', hrange _ hnamed' hnamed⟩,
    ⟨hzero, hfew, hother "A0" hzero hfew⟩, ⟨isOverlong_longCorner, ?_⟩,
    ⟨by decide, hcolons _ (by decide)⟩, hrefused,
    hdefect _ "B2".toList "A1".toList rfl (by decide) (by decide) ⟨?_, ?_⟩ (.inr (.inr hrefused))⟩
  · have hread := hlong (String.ofList longCorner)
      (by rw [String.toList_ofList]; exact isOverlong_longCorner)
    rwa [String.toList_ofList, length_rowDigits_longCorner] at hread
  · exact fun h => absurd h.2 (by decide)
  · exact fun h => absurd h.2 (by decide)

end Spreadsheet

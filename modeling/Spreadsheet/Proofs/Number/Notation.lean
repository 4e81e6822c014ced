import Spreadsheet.Number.Layout
import Spreadsheet.Number.Numeral
import Spreadsheet.Proofs.Number.Rounding

/-!
Written decimals are read back.

A layout writes digits in one of four shapes: as a whole number with zeros behind it, with the point
among the digits, with zeros between the point and the digits, or with an exponent.  A numeral's
reader takes each of them as a whole, and what it makes of it has the value that was written
(`Layout.isDecimal_positional`, `Layout.isDecimal_scientific`).  The zeros that are left out at the
end move the exponent, so that any digits and any exponent come back (`Layout.isDecimal_write`).
-/

namespace Spreadsheet.Number

/-! ### Runs of digits -/

theorem digitsValue_append_zeros (digits : List Char) (k : Nat) :
    digitsValue (digits ++ List.replicate k '0') = digitsValue digits * 10 ^ k := by
  rw [digitsValue, Nat.ofDigitChars_append, Nat.ofDigitChars_replicate_zero, Nat.mul_comm]
  rfl

theorem digitsValue_zeros_append (k : Nat) (digits : List Char) :
    digitsValue (List.replicate k '0' ++ digits) = digitsValue digits := by
  rw [digitsValue, Nat.ofDigitChars_append, Nat.ofDigitChars_replicate_zero, Nat.mul_zero]
  rfl

theorem isDigit_zeros (n : Nat) : ∀ c ∈ List.replicate n '0', c.isDigit = true := by
  intro c hc
  rw [List.eq_of_mem_replicate hc]
  rfl

/-- Only zeros at the end are left out. -/
theorem exists_stripZeros_append (digits : List Char) :
    ∃ k, digits = stripZeros digits ++ List.replicate k '0' := by
  have hzeros : digits.reverse.takeWhile (· == '0')
      = List.replicate (digits.reverse.takeWhile (· == '0')).length '0' := by
    refine List.eq_replicate_of_mem fun c hc => ?_
    exact eq_of_beq (List.all_eq_true.mp List.all_takeWhile c hc)
  refine ⟨(digits.reverse.takeWhile (· == '0')).length, ?_⟩
  calc digits = digits.reverse.reverse := (List.reverse_reverse digits).symm
    _ = (digits.reverse.takeWhile (· == '0') ++ digits.reverse.dropWhile (· == '0')).reverse := by
        rw [List.takeWhile_append_dropWhile]
    _ = stripZeros digits ++ (digits.reverse.takeWhile (· == '0')).reverse := List.reverse_append
    _ = stripZeros digits ++ List.replicate _ '0' := by
        rw [hzeros, List.reverse_replicate, List.length_replicate]

/-- A digit other than zero stays. -/
theorem stripZeros_ne_nil {digits : List Char} {c : Char} (hc : c ∈ digits) (hne : c ≠ '0') :
    stripZeros digits ≠ [] := by
  obtain ⟨k, hk⟩ := exists_stripZeros_append digits
  intro hnil
  rw [hnil, List.nil_append] at hk
  rw [hk] at hc
  exact hne (List.eq_of_mem_replicate hc)

theorem mem_of_mem_stripZeros {digits : List Char} {c : Char} (hc : c ∈ stripZeros digits) :
    c ∈ digits := by
  obtain ⟨k, hk⟩ := exists_stripZeros_append digits
  rw [hk]
  exact List.mem_append_left _ hc

/-- Without the zeros at the end, the digits denote the same number with the point where it was. -/
theorem value_stripZeros (digits : List Char) (exponent : Int) :
    (digitsValue digits : ℚ) * (10 : ℚ) ^ exponent = digitsValue (stripZeros digits)
      * (10 : ℚ) ^ ((digits.length : Int) + exponent - (stripZeros digits).length) := by
  obtain ⟨k, hk⟩ := exists_stripZeros_append digits
  have hlength := congrArg List.length hk
  rw [List.length_append, List.length_replicate] at hlength
  have hexp : (digits.length : Int) + exponent - (stripZeros digits).length = k + exponent := by
    omega
  rw [hexp, zpow_add₀ (by decide), zpow_natCast, ← mul_assoc]
  conv_lhs => rw [hk, digitsValue_append_zeros]
  push_cast
  rfl

namespace Numeral

/-! ### Reading digits off the front -/

section Digits

variable {whole fraction : List Char} (rest : List Char)
  (hwhole : ∀ c ∈ whole, c.isDigit = true)

include hwhole

theorem takeWhile_digits (hrest : ∀ c, rest.head? = some c → c.isDigit = false) :
    (whole ++ rest).takeWhile Char.isDigit = whole := by
  rw [List.takeWhile_append_of_pos hwhole]
  cases rest with
  | nil => exact List.append_nil whole
  | cons c rest => simp [hrest c rfl]

theorem dropWhile_digits (hrest : ∀ c, rest.head? = some c → c.isDigit = false) :
    (whole ++ rest).dropWhile Char.isDigit = rest := by
  rw [List.dropWhile_append_of_pos hwhole]
  cases rest with
  | nil => rfl
  | cons c rest => simp [hrest c rfl]

/-- Digits, with or without a point and more digits, are read as a whole. -/
theorem readFixed?_append (hne : whole ≠ []) (hfraction : ∀ c ∈ fraction, c.isDigit = true)
    (hrest : ∀ c, rest.head? = some c → c.isDigit = false ∧ c ≠ '.') :
    readFixed? (whole ++ (if fraction.isEmpty then [] else '.' :: fraction) ++ rest)
      = some (⟨digitsValue (whole ++ fraction), -fraction.length⟩, rest) := by
  have hempty : whole.isEmpty = false := List.isEmpty_eq_false_iff.mpr hne
  have hdigit : ∀ c, rest.head? = some c → c.isDigit = false := fun c hc => (hrest c hc).1
  unfold readFixed?
  by_cases hf : fraction = []
  · rw [hf, List.append_nil]
    simp only [List.isEmpty_nil, if_true, List.append_nil]
    rw [takeWhile_digits rest hwhole hdigit, dropWhile_digits rest hwhole hdigit]
    split
    · next rest' =>
      exact absurd rfl (hrest '.' rfl).2
    · rw [hempty]
      rfl
  · have hpoint : ∀ c, ('.' :: (fraction ++ rest)).head? = some c → c.isDigit = false := by
      rintro c ⟨⟩
      rfl
    rw [List.isEmpty_eq_false_iff.mpr hf, if_neg (by decide), List.append_assoc,
      List.cons_append, takeWhile_digits _ hwhole hpoint, dropWhile_digits _ hwhole hpoint]
    simp only [takeWhile_digits rest hfraction hdigit, dropWhile_digits rest hfraction hdigit,
      hempty, Bool.false_and, Bool.false_eq_true, if_false]

end Digits

/-- A decimal begins with a digit or with the point. -/
theorem head_of_readFixed? {cs rest : List Char} {d : Decimal}
    (h : readFixed? cs = some (d, rest)) :
    ∃ c cs', cs = c :: cs' ∧ (c.isDigit = true ∨ c = '.') := by
  cases cs with
  | nil => cases h
  | cons c cs =>
    refine ⟨c, cs, rfl, ?_⟩
    by_cases hdigit : c.isDigit = true
    · exact Or.inl hdigit
    · by_cases hpoint : c = '.'
      · exact Or.inr hpoint
      · rw [readFixed?, List.takeWhile_cons_of_neg hdigit, List.dropWhile_cons_of_neg hdigit] at h
        split at h
        · next heq => exact absurd (List.cons.inj heq).1 hpoint
        · cases h

/-- A decimal is read with the exponent behind it, if there is one. -/
theorem readMagnitude?_of_readFixed? {cs rest rest' : List Char} {d : Decimal} {e : Int}
    (h : readFixed? cs = some (d, rest)) (he : (readExponent? rest).getD (0, rest) = (e, rest')) :
    readMagnitude? cs = some (.decimal ⟨d.digits, d.exponent + e⟩, rest') := by
  obtain ⟨c, cs, rfl, hc⟩ := head_of_readFixed? h
  unfold readMagnitude?
  split
  · next heq =>
    obtain ⟨rfl, _⟩ := List.cons.inj heq
    rcases hc with hc | hc <;> cases hc
  · simp only [h, he]

/-- An exponent with its sign is read as a whole. -/
theorem readExponent?_append {digits : List Char} (hne : digits ≠ [])
    (hdigits : ∀ c ∈ digits, c.isDigit = true) {e : Int} (he : digitsValue digits = e.natAbs) :
    readExponent? ('e' :: (if e < 0 then '-' else '+') :: digits) = some (e, []) := by
  have htake : digits.takeWhile Char.isDigit = digits := by
    have := takeWhile_digits [] hdigits (fun c hc => by cases hc)
    rwa [List.append_nil] at this
  have hdrop : digits.dropWhile Char.isDigit = [] := by
    have := dropWhile_digits [] hdigits (fun c hc => by cases hc)
    rwa [List.append_nil] at this
  have hempty : digits.isEmpty = false := List.isEmpty_eq_false_iff.mpr hne
  rw [readExponent?, if_pos (Or.inl rfl)]
  by_cases hneg : e < 0
  · simp only [if_pos hneg, readSign, htake, hdrop, hempty, he]
    simp only [Bool.false_eq_true, if_false, if_true, Option.some_inj, Prod.mk.injEq, and_true]
    omega
  · simp only [if_neg hneg, readSign, htake, hdrop, hempty, he]
    simp only [Bool.false_eq_true, if_false, Option.some_inj, Prod.mk.injEq, and_true]
    omega

/-- The whole text is read as a decimal without a sign, and that stands for the number. -/
def IsDecimal (cs : List Char) (q : ℚ) : Prop :=
  ∃ d, readMagnitude? cs = some (.decimal d, []) ∧ d.value = q

section Shapes

variable (whole fraction : List Char) (hne : whole ≠ [])
  (hwhole : ∀ c ∈ whole, c.isDigit = true) (hfraction : ∀ c ∈ fraction, c.isDigit = true)

include hne hwhole hfraction

/-- Digits without an exponent. -/
theorem isDecimal_fixed :
    IsDecimal (whole ++ (if fraction.isEmpty then [] else '.' :: fraction))
      (digitsValue (whole ++ fraction) * (10 : ℚ) ^ (-(fraction.length : Int))) := by
  have hfixed := readFixed?_append [] hwhole hne hfraction fun c hc => by cases hc
  rw [List.append_nil] at hfixed
  refine ⟨_, readMagnitude?_of_readFixed? hfixed rfl, ?_⟩
  simp only [Decimal.value, Int.add_zero]

/-- Digits with a point and more digits behind it. -/
theorem isDecimal_point (hfne : fraction ≠ []) :
    IsDecimal (whole ++ '.' :: fraction)
      (digitsValue (whole ++ fraction) * (10 : ℚ) ^ (-(fraction.length : Int))) := by
  have hfixed := isDecimal_fixed whole fraction hne hwhole hfraction
  rw [List.isEmpty_eq_false_iff.mpr hfne, if_neg Bool.false_ne_true] at hfixed
  exact hfixed

/-- Digits with an exponent. -/
theorem isDecimal_exponent {e : Int} (digits : List Char) (hdne : digits ≠ [])
    (hdigits : ∀ c ∈ digits, c.isDigit = true) (he : digitsValue digits = e.natAbs) :
    IsDecimal (whole ++ (if fraction.isEmpty then [] else '.' :: fraction)
        ++ 'e' :: (if e < 0 then '-' else '+') :: digits)
      (digitsValue (whole ++ fraction) * (10 : ℚ) ^ (e - fraction.length)) := by
  have hfixed := readFixed?_append ('e' :: (if e < 0 then '-' else '+') :: digits)
    hwhole hne hfraction fun c hc => by
      cases hc
      exact ⟨rfl, by decide⟩
  refine ⟨_, readMagnitude?_of_readFixed? hfixed
    (by rw [readExponent?_append hdne hdigits he]; rfl), ?_⟩
  simp only [Decimal.value]
  rw [Int.add_comm, Int.sub_eq_add_neg]

end Shapes

end Numeral

namespace Layout

open Numeral

variable {digits : List Char} (hne : digits ≠ []) (hdigits : ∀ c ∈ digits, c.isDigit = true)

include hne hdigits

/-- A whole number: the missing places are filled with zeros. -/
theorem isDecimal_filled (n : Nat) {mark : List Char} (hmark : mark = [] ∨ mark = ['.', '0']) :
    IsDecimal (digits ++ List.replicate n '0' ++ mark)
      (digitsValue digits * (10 : ℚ) ^ (n : Int)) := by
  have hwhole := List.forall_mem_append.mpr ⟨hdigits, isDigit_zeros n⟩
  have hwne : digits ++ List.replicate n '0' ≠ [] := List.append_ne_nil_of_left_ne_nil hne _
  rcases hmark with rfl | rfl
  · obtain ⟨d, hread, hvalue⟩ := isDecimal_fixed _ [] hwne hwhole fun c hc => by cases hc
    refine ⟨d, hread, hvalue.trans ?_⟩
    rw [List.append_nil, digitsValue_append_zeros]
    simp
  · obtain ⟨d, hread, hvalue⟩ :=
      isDecimal_point _ _ hwne hwhole (isDigit_zeros 1) (List.cons_ne_nil '0' [])
    refine ⟨d, hread, hvalue.trans ?_⟩
    rw [digitsValue_append_zeros, digitsValue_append_zeros]
    simp

/-- The point is among the digits. -/
theorem isDecimal_split {n : Nat} (hpos : 0 < n) (hlt : n < digits.length) :
    IsDecimal (digits.take n ++ '.' :: digits.drop n)
      (digitsValue digits * (10 : ℚ) ^ ((n : Int) - digits.length)) := by
  have hwne : digits.take n ≠ [] := by
    rw [Ne, List.take_eq_nil_iff, not_or]
    exact ⟨Nat.pos_iff_ne_zero.mp hpos, hne⟩
  have hfne : digits.drop n ≠ [] := by
    rw [Ne, List.drop_eq_nil_iff]
    exact Nat.not_le.mpr hlt
  obtain ⟨d, hread, hvalue⟩ := isDecimal_point _ _ hwne
    (fun c hc => hdigits c (List.mem_of_mem_take hc))
    (fun c hc => hdigits c (List.mem_of_mem_drop hc)) hfne
  refine ⟨d, hread, hvalue.trans ?_⟩
  rw [List.take_append_drop, List.length_drop]
  congr 2
  omega

/-- The point stands in front of the digits. -/
theorem isDecimal_zeros (n : Nat) :
    IsDecimal ('0' :: '.' :: (List.replicate n '0' ++ digits))
      (digitsValue digits * (10 : ℚ) ^ (-(n : Int) - digits.length)) := by
  have hfraction := List.forall_mem_append.mpr ⟨isDigit_zeros n, hdigits⟩
  obtain ⟨d, hread, hvalue⟩ := isDecimal_point ['0'] _ (List.cons_ne_nil _ _) (isDigit_zeros 1)
    hfraction (List.append_ne_nil_of_right_ne_nil _ hne)
  refine ⟨d, hread, hvalue.trans ?_⟩
  have hzeros : ['0'] ++ List.replicate n '0' = List.replicate (n + 1) '0' := rfl
  rw [← List.append_assoc, hzeros, digitsValue_zeros_append, List.length_append,
    List.length_replicate]
  congr 2
  omega

/-- A decimal that is written out is read back, wherever its point is. -/
theorem isDecimal_positional (l : Layout) (hmark : l.wholeMark = [] ∨ l.wholeMark = ['.', '0'])
    (point : Int) :
    IsDecimal (l.positional digits point)
      (digitsValue digits * (10 : ℚ) ^ (point - digits.length)) := by
  unfold positional
  split
  · next hpoint =>
    obtain ⟨n, hn⟩ := Int.eq_ofNat_of_zero_le (Int.sub_nonneg.mpr hpoint)
    rw [hn, Int.toNat_natCast]
    exact isDecimal_filled hne hdigits n hmark
  split
  · next hshort hpos =>
    obtain ⟨n, rfl⟩ := Int.eq_ofNat_of_zero_le (Int.le_of_lt hpos)
    rw [Int.toNat_natCast]
    exact isDecimal_split hne hdigits (by omega) (by omega)
  · next hshort hpos =>
    obtain ⟨n, hn⟩ := Int.eq_ofNat_of_zero_le (Int.neg_nonneg.mpr (Int.not_lt.mp hpos))
    have hpoint : point = -(n : Int) := by omega
    rw [hn, Int.toNat_natCast, hpoint]
    exact isDecimal_zeros hne hdigits n

/-- A decimal with an exponent is read back. -/
theorem isDecimal_scientific (l : Layout) (point : Int) :
    IsDecimal (l.scientific digits point)
      (digitsValue digits * (10 : ℚ) ^ (point - digits.length)) := by
  have hlength := List.length_pos_iff.mpr hne
  have hwne : digits.take 1 ≠ [] := by
    rw [Ne, List.take_eq_nil_iff, not_or]
    exact ⟨by decide, hne⟩
  unfold scientific
  dsimp only
  generalize hmagnitude : Nat.toDigits 10 (point - 1).natAbs = magnitude
  generalize l.exponentWidth - magnitude.length = pad
  obtain ⟨d, hread, hvalue⟩ := isDecimal_exponent _ _ hwne
    (fun c hc => hdigits c (List.mem_of_mem_take hc))
    (fun c hc => hdigits c (List.mem_of_mem_drop hc)) (e := point - 1)
    (List.replicate pad '0' ++ magnitude)
    (by
      rw [← hmagnitude]
      exact List.append_ne_nil_of_right_ne_nil _ Nat.toDigits_ne_nil)
    (List.forall_mem_append.mpr ⟨isDigit_zeros pad, fun c hc => by
      rw [← hmagnitude] at hc
      exact Nat.isDigit_of_mem_toDigits (by decide) (by decide) hc⟩)
    (by rw [digitsValue_zeros_append, ← hmagnitude, digitsValue_toDigits])
  refine ⟨d, hread, hvalue.trans ?_⟩
  rw [List.take_append_drop, List.length_drop]
  congr 2
  omega

/-- Both ways of writing keep the number. -/
theorem isDecimal_write (l : Layout) (hmark : l.wholeMark = [] ∨ l.wholeMark = ['.', '0'])
    (hhead : digits.head? ≠ some '0') (exponent : Int) :
    IsDecimal (l.write digits exponent) (digitsValue digits * (10 : ℚ) ^ exponent) := by
  have hkept : stripZeros digits ≠ [] := by
    cases digits with
    | nil => exact absurd rfl hne
    | cons c cs => exact stripZeros_ne_nil List.mem_cons_self fun hc => hhead (by rw [hc]; rfl)
  have hkdigits : ∀ c ∈ stripZeros digits, c.isDigit = true := fun c hc =>
    hdigits c (mem_of_mem_stripZeros hc)
  rw [value_stripZeros]
  unfold write
  dsimp only
  split
  · exact isDecimal_positional hkept hkdigits l hmark _
  · exact isDecimal_scientific hkept hkdigits l _

end Layout

end Spreadsheet.Number

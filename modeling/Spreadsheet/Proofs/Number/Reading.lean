import Spreadsheet.Proofs.Evaluation
import Spreadsheet.Proofs.Number.Grammar
import Spreadsheet.Proofs.Number.Nearest

/-!
The number in a text.

`Reads` says what number there is in a text, in terms of the grammar of numerals and of rounding
alone: characters of a given class are skipped in front, the longest numeral behind them is taken,
and its value is rounded to the nearest double.  A cell's text is read in just this way
(`ofText_reads_longest`), and neither a negative zero nor anything that is not a number comes out of
it.  `hasValue_ofCode` ties the codes to the logical model of doubles: their values are the numbers
that it unpacks.
-/

namespace Spreadsheet.Number

open Numeral (read?)

/-! ### What a text is read as -/

/-- The text is characters of the class and then the rest, which does not begin with another one. -/
def SkipsTo (blank : Char → Bool) (cs rest : List Char) : Prop :=
  ∃ blanks, cs = blanks ++ rest ∧ (∀ c ∈ blanks, blank c = true) ∧
    ∀ c, rest.head? = some c → blank c = false

/-- Infinity is a double, and any other number is rounded. -/
inductive IsRounded : WithTop ℚ → Nat → Prop where
  | infinity : IsRounded ⊤ infinityCode
  | number {q : ℚ} {code : Nat} (h : RoundsTo q code) : IsRounded q code

/-- The number in a text.  It is zero if no numeral stands behind the characters that are skipped,
and otherwise the double that the longest numeral there is rounded to, but a zero has no sign. -/
inductive Reads (blank : Char → Bool) (cs : List Char) : Float → Prop where
  | nothing {rest : List Char} (hskip : SkipsTo blank cs rest)
    (hnone : ∀ numeral negative q, IsNumeral numeral negative q → ¬numeral <+: rest) :
    Reads blank cs 0.0
  | numeral {rest numeral : List Char} {negative : Bool} {q : WithTop ℚ} {code : Nat}
    (hskip : SkipsTo blank cs rest) (hlongest : IsLongest rest numeral negative q)
    (hcode : IsRounded q code) :
    Reads blank cs (if code = 0 then 0.0 else ofCode negative code)

variable {blank : Char → Bool} {cs rest : List Char} {q : WithTop ℚ} {code code' : Nat}

/-- There is one place at which the skipping ends. -/
theorem skipsTo_iff : SkipsTo blank cs rest ↔ rest = cs.dropWhile blank := by
  constructor
  · rintro ⟨blanks, rfl, hblanks, hrest⟩
    rw [List.dropWhile_append_of_pos hblanks]
    cases rest with
    | nil => rfl
    | cons c rest => simp [hrest c rfl]
  · rintro rfl
    refine ⟨cs.takeWhile blank, List.takeWhile_append_dropWhile.symm, fun c hc => ?_,
      fun c hc => ?_⟩
    · exact List.all_eq_true.mp List.all_takeWhile c hc
    · have hhead := List.head?_dropWhile_not blank cs
      rw [hc] at hhead
      simpa using hhead

theorem IsRounded.unique (h : IsRounded q code) (h' : IsRounded q code') : code = code' := by
  cases h with
  | infinity =>
    cases h'
    rfl
  | number h =>
    cases h' with
    | number h' => exact h.unique h'

theorem IsRounded.le (h : IsRounded q code) : code ≤ infinityCode := by
  cases h with
  | infinity => exact Nat.le_refl _
  | number h => exact h.le

/-- A numeral has the code that its value is rounded to. -/
theorem isRounded_code (n : Numeral) : IsRounded n.magnitude.value n.code := by
  obtain ⟨negative, magnitude⟩ := n
  cases magnitude with
  | infinity => exact .infinity
  | decimal d => exact .number d.roundsTo_nearestCode

theorem ofCode_zero : ofCode false 0 = 0.0 := by
  decide +kernel

/-- The number behind the characters of a class. -/
def numberBehind (blank : Char → Bool) (cs : List Char) : Float :=
  match read? (cs.dropWhile blank) with
  | none => ofCode false 0
  | some (n, _) => if n.code = 0 then ofCode false 0 else n.toFloat

theorem ofText_eq_numberBehind (text : String) :
    ofText text = numberBehind Text.isBlank text.toList :=
  rfl

/-- There is one number in a text. -/
theorem reads_iff (blank : Char → Bool) (cs : List Char) (x : Float) :
    Reads blank cs x ↔ x = numberBehind blank cs := by
  unfold numberBehind
  rw [ofCode_zero]
  cases hread : read? (cs.dropWhile blank) with
  | none =>
    have hnone := read?_eq_none_iff.mp hread
    constructor
    · intro h
      cases h with
      | nothing => rfl
      | numeral hskip hlongest =>
        rw [skipsTo_iff] at hskip
        rw [hskip] at hlongest
        exact absurd hlongest.begins (hnone _ _ _ hlongest.form)
    · rintro rfl
      exact .nothing (skipsTo_iff.mpr rfl) hnone
  | some taken =>
    obtain ⟨n, rest⟩ := taken
    obtain ⟨numeral, hlongest⟩ := isLongest_of_read? hread
    constructor
    · intro h
      cases h with
      | nothing hskip hnone =>
        rw [skipsTo_iff] at hskip
        rw [hskip] at hnone
        exact absurd hlongest.begins (hnone _ _ _ hlongest.form)
      | numeral hskip hlongest' hcode =>
        rw [skipsTo_iff] at hskip
        rw [hskip] at hlongest'
        obtain ⟨_, rfl, rfl⟩ := hlongest.unique hlongest'
        rw [hcode.unique (isRounded_code n)]
        rfl
    · rintro rfl
      exact .numeral (skipsTo_iff.mpr rfl) hlongest (isRounded_code n)

/-! ### What never comes out -/

theorem isNaN_ofCode (negative : Bool) (h : code ≤ infinityCode) :
    (ofCode negative code).isNaN = false := by
  have hdesc := describes_ofFloat (ofCode negative code)
  rw [ofFloat_ofCode negative h] at hdesc
  show (ofCode negative code).toModel.unpack.isNaN = false
  generalize (ofCode negative code).toModel.unpack = u at hdesc
  split at hdesc
  · cases hdesc with
    | zero => rfl
    | nonzero => rfl
  · cases hdesc
    rfl

/-- The negative zero is the only double with a minus sign and the code zero. -/
theorem ofCode_ne_negativeZero {negative : Bool} (h : code ≤ infinityCode)
    (hcode : code = 0 → negative = false) : ofCode negative code ≠ -0.0 := by
  intro heq
  have hparts := ofFloat_ofCode negative h
  have hzero : Parts.ofFloat (-0.0) = .finite true 0 := by decide +kernel
  rw [heq, hzero] at hparts
  split at hparts
  · simp only [Parts.finite.injEq] at hparts
    exact Bool.false_ne_true ((hcode hparts.2.symm).symm.trans hparts.1.symm)
  · cases hparts

theorem ordinary_numberBehind (blank : Char → Bool) (cs : List Char) :
    (numberBehind blank cs).isNaN = false ∧ numberBehind blank cs ≠ -0.0 := by
  have hzero : (ofCode false 0).isNaN = false ∧ ofCode false 0 ≠ -0.0 :=
    ⟨isNaN_ofCode false (Nat.zero_le _), ofCode_ne_negativeZero (Nat.zero_le _) fun _ => rfl⟩
  unfold numberBehind
  split
  · exact hzero
  · next n _ _ =>
    have hle := (isRounded_code n).le
    split
    · exact hzero
    · next hcode =>
      exact ⟨isNaN_ofCode _ hle, ofCode_ne_negativeZero hle fun h => absurd h hcode⟩

/-- The numbers of a range are what its cells are read as. -/
theorem ordinary_of_mem_rangeValues {g : Grid} {r : Range} {values : List Float} {x : Float}
    (h : Formula.rangeValues g r = .ok values) (hx : x ∈ values) : x.isNaN = false ∧ x ≠ -0.0 := by
  obtain ⟨ref, _, href⟩ := Formula.exists_mem_of_mem_mapM h hx
  rw [Formula.numberAt_of_inBounds (Formula.numberAt_eq_ok href)] at href
  cases href
  exact ordinary_numberBehind _ _

/-! ### The doubles that the codes stand for -/

open Float.Model (UnpackedFloat)

/-- The number that an unpacked double stands for. -/
inductive HasValue : UnpackedFloat → ℚ → Prop where
  | zero (negative : Bool) : HasValue (.zero (signOf negative)) 0
  | finite (negative : Bool) (m : Nat) (e : Int) (h : 0 < m) :
    HasValue (.finite (signOf negative) m e h) (signed negative (m * (2 : ℚ) ^ e))

/-- A code with a sign stands for the double of that value. -/
theorem hasValue_ofCode (negative : Bool) (h : code < infinityCode) :
    HasValue (ofCode negative code).toModel.unpack (signed negative (valueOf code)) := by
  have hlimit : infinityCode = 2047 * 2 ^ 52 := rfl
  have hunit : unitBits = 1074 := rfl
  obtain ⟨e, m, hcode, hbits⟩ := exists_toBitVec_toBits_ofCode (Nat.le_of_lt h)
  have hm : m.toNat < 2 ^ 52 := m.isLt
  have hlast : e ≠ -1#11 := by
    intro heq
    have htop : e.toNat = 2047 := by rw [heq]; rfl
    omega
  show HasValue (UnpackedFloat.unpack Float.Model.Format.binary64
    (ofCode negative code).toBits.toBitVec) _
  rw [hbits, unpack_packComponents, if_neg hlast]
  unfold valueOf
  by_cases hzero : e = 0#11
  · have he : e.toNat = 0 := by rw [hzero]; rfl
    rw [if_pos hzero, units_of_lt (by omega)]
    by_cases hm0 : m = 0#52
    · have hcode0 : code = 0 := by
        have hmnat : m.toNat = 0 := by rw [hm0]; rfl
        omega
      have hvalue : signed negative ((code : ℚ) / 2 ^ unitBits) = 0 := by
        simp [hcode0, signed]
      rw [dif_pos hm0, hvalue]
      exact .zero negative
    · -- a subnormal number has its code as mantissa
      have hvalue : (code : ℚ) / 2 ^ unitBits = m.toNat * (2 : ℚ) ^ (-1074 : Int) := by
        rw [show code = m.toNat by omega, div_eq_mul_inv, ← zpow_natCast, ← zpow_neg, hunit]
        rfl
      rw [dif_neg hm0, hvalue]
      exact .finite negative _ _ _
  · have he : e.toNat ≠ 0 := fun hnat => hzero (BitVec.eq_of_toNat_eq hnat)
    have hexp : (e.toNat : Int) - 1075 =
        ((e.toNat - 1 : Nat) : Int) - ((unitBits : Nat) : Int) := by omega
    have hunits : units code = (2 ^ 52 + m.toNat) * 2 ^ (e.toNat - 1) := by
      rw [units_of_le (by omega), show code % 2 ^ 52 = m.toNat by omega,
        show code / 2 ^ 52 = e.toNat by omega]
    have hvalue : (units code : ℚ) / 2 ^ unitBits =
        ((2 ^ 52 + m.toNat : Nat) : ℚ) * (2 : ℚ) ^ ((e.toNat : Int) - 1075) := by
      rw [hexp, zpow_sub₀ (by norm_num), zpow_natCast, zpow_natCast, hunits, Nat.cast_mul,
        Nat.cast_pow, Nat.cast_ofNat, mul_div_assoc]
    rw [if_neg hzero, hvalue]
    exact .finite negative _ _ _

/-- The last code stands for infinity. -/
theorem unpack_ofCode_infinityCode (negative : Bool) :
    (ofCode negative infinityCode).toModel.unpack = .infinity (signOf negative) := by
  have hdesc := describes_ofFloat (ofCode negative infinityCode)
  rw [ofFloat_ofCode negative (Nat.le_refl _), if_neg (Nat.lt_irrefl _)] at hdesc
  generalize (ofCode negative infinityCode).toModel.unpack = u at hdesc
  cases hdesc
  rfl

end Spreadsheet.Number

namespace Spreadsheet

open Formula (rangeValues)
open Number

/-- **A cell's text is read as the longest numeral behind its blanks.**  The value of that numeral
is rounded to the nearest double, halfway between two of them to the even one, and to infinity
beyond their range; without a numeral the number is zero.  So there is always exactly one, it is
never anything but a number, and a zero has no minus sign, in a text or in the numbers of a range.
The last two parts say which doubles the codes are. -/
theorem ofText_reads_longest :
    (∀ (text : String) (x : Float), Reads Text.isBlank text.toList x ↔ x = ofText text) ∧
    (∀ text : String, (ofText text).isNaN = false ∧ ofText text ≠ -0.0) ∧
    (∀ (g : Grid) (r : Range) (values : List Float), rangeValues g r = .ok values →
      ∀ x ∈ values, x.isNaN = false ∧ x ≠ -0.0) ∧
    (∀ (negative : Bool) (code : Nat), code < infinityCode →
      HasValue (ofCode negative code).toModel.unpack (signed negative (valueOf code))) ∧
    ∀ negative : Bool,
      (ofCode negative infinityCode).toModel.unpack = .infinity (signOf negative) := by
  refine ⟨fun text x => ?_, fun text => ordinary_numberBehind _ _, ?_, ?_, ?_⟩
  · exact reads_iff Text.isBlank text.toList x
  · intro g r values hvalues x hx
    exact ordinary_of_mem_rangeValues hvalues hx
  · intro negative code hcode
    exact hasValue_ofCode negative hcode
  · intro negative
    exact unpack_ofCode_infinityCode negative

/-- A numeral that is too small for a double, and one that breaks off. -/
theorem ofText_reads_longest_pair :
    rangeValues
        ⟨1, 2, [[⟨" -1e-400x", ""⟩, ⟨"+.5e-", ""⟩]], by decide, by decide, by decide, by decide⟩
        ⟨⟨0, 0⟩, ⟨0, 1⟩, by decide, by decide⟩ = .ok [0.0, 0.5] ∧
      (∀ x ∈ [(0.0 : Float), 0.5], x.isNaN = false ∧ x ≠ -0.0) ∧
      Reads Text.isBlank " -1e-400x".toList 0.0 ∧ Reads Text.isBlank "+.5e-".toList 0.5 := by
  obtain ⟨hreads, _, hvalues, _⟩ := ofText_reads_longest
  have hpair : rangeValues
      ⟨1, 2, [[⟨" -1e-400x", ""⟩, ⟨"+.5e-", ""⟩]], by decide, by decide, by decide, by decide⟩
      ⟨⟨0, 0⟩, ⟨0, 1⟩, by decide, by decide⟩ = .ok [0.0, 0.5] := by
    decide +kernel
  refine ⟨hpair, hvalues _ _ _ hpair, ?_, ?_⟩
  · exact (hreads _ _).mpr (by decide +kernel)
  · exact (hreads _ _).mpr (by decide +kernel)

end Spreadsheet

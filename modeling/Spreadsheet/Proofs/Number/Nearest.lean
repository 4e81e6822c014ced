import Mathlib
import Spreadsheet.Proofs.Number.Rounding

/-!
The nearest double.

The codes count the doubles in their order, so their values grow with them (`strictMono_units`), by
one unit of the last place from each code to the next (`units_succ`).  A fraction is rounded within
half of such a step (`brackets_nearestCode`).  From there, `roundsTo_nearestCode` says that no
double is nearer than the one that is taken, and that of two that are equally near it is the even
one; infinity counts as the power of two after the greatest double.  There is only one such code
(`RoundsTo.unique`).
-/

namespace Spreadsheet.Number

/-! ### The values of the codes -/

/-- A whole number of grid steps: subnormal numbers have the least step, and all others so many
steps that they take 53 bits. -/
theorem units_grid {shift n : Nat} (hn : n ≤ 2 ^ 53) (h : shift = 0 ∨ 2 ^ 52 ≤ n) :
    units (shift * 2 ^ 52 + n) = n * 2 ^ shift := by
  by_cases hsub : n < 2 ^ 52
  · have hshift : shift = 0 := by omega
    rw [hshift, Nat.zero_mul, Nat.zero_add, units_of_lt hsub, Nat.pow_zero, Nat.mul_one]
  · rw [units_of_le (by omega)]
    by_cases htop : n = 2 ^ 53
    · -- the next power of two, the first code of the next exponent
      have hmod : (shift * 2 ^ 52 + n) % 2 ^ 52 = 0 := by omega
      have hdiv : (shift * 2 ^ 52 + n) / 2 ^ 52 - 1 = shift + 1 := by omega
      rw [hmod, hdiv, htop, Nat.pow_succ 2 shift]
      omega
    · have hmod : 2 ^ 52 + (shift * 2 ^ 52 + n) % 2 ^ 52 = n := by omega
      have hdiv : (shift * 2 ^ 52 + n) / 2 ^ 52 - 1 = shift := by omega
      rw [hmod, hdiv]

/-- From a code to the next one it is one grid step. -/
theorem units_succ (code : Nat) : units (code + 1) = units code + 2 ^ (code / 2 ^ 52 - 1) := by
  obtain ⟨shift, n, hcode, hshift, hn, hgrid⟩ : ∃ shift n, code = shift * 2 ^ 52 + n ∧
      shift = code / 2 ^ 52 - 1 ∧ n < 2 ^ 53 ∧ (shift = 0 ∨ 2 ^ 52 ≤ n) := by
    refine ⟨code / 2 ^ 52 - 1, code - (code / 2 ^ 52 - 1) * 2 ^ 52, ?_, rfl, ?_, ?_⟩ <;> omega
  rw [← hshift, hcode, Nat.add_assoc, units_grid (by omega) (by omega),
    units_grid (by omega) (by omega), Nat.succ_mul]

theorem strictMono_units : StrictMono units := by
  refine strictMono_nat_of_lt_succ fun code => ?_
  rw [units_succ]
  exact Nat.lt_add_of_pos_right (Nat.two_pow_pos _)

/-! ### Rounding a fraction -/

/-- A fraction is at most half of one away from the whole number that it is rounded to, and that
number is even if it is just half of one away. -/
theorem roundDiv_spec (num : Nat) {den : Nat} (hden : 0 < den) :
    (2 * (roundDiv num den * den) ≤ 2 * num + den ∧
      2 * num ≤ 2 * (roundDiv num den * den) + den) ∧
    (2 * (roundDiv num den * den) = 2 * num + den ∨
      2 * num = 2 * (roundDiv num den * den) + den → roundDiv num den % 2 = 0) := by
  have hnum : num / den * den + num % den = num := by
    rw [Nat.mul_comm]
    exact Nat.div_add_mod num den
  have hlt := Nat.mod_lt num hden
  simp only [roundDiv]
  generalize num / den = q at *
  generalize num % den = r at *
  have hsucc : (q + 1) * den = q * den + den := Nat.succ_mul q den
  split
  · omega
  split
  · rw [hsucc]
    omega
  · -- the fraction is halfway between two whole numbers
    rcases Nat.mod_two_eq_zero_or_one q with heven | hodd
    · rw [heven, Nat.add_zero]
      omega
    · rw [hodd, hsucc]
      omega

theorem div_le_roundDiv (num den : Nat) :
    num / den ≤ roundDiv num den ∧ roundDiv num den ≤ num / den + 1 := by
  simp only [roundDiv]
  split
  · omega
  split
  · omega
  · omega

/-- A number of units, given as a fraction, lies no further from the code than halfway to the code
before and halfway to the code after it; halfway only if the code is even. -/
structure Brackets (num den code : Nat) : Prop where
  le : code ≤ infinityCode
  below : ∀ before, before + 1 = code → (units before + units code) * den ≤ 2 * num ∧
    ((units before + units code) * den = 2 * num → code % 2 = 0)
  above : code < infinityCode → 2 * num ≤ (units code + units (code + 1)) * den ∧
    (2 * num = (units code + units (code + 1)) * den → code % 2 = 0)

section Grid

variable {num den shift n : Nat} (hden : 0 < den) (hshift : shift = (num / den).log2 - 52)
  (hn : n = roundDiv num (den * 2 ^ shift))

include hshift hn

/-- The number of grid steps takes 53 bits. -/
theorem grid_bounds :
    num / (den * 2 ^ shift) ≤ n ∧ n ≤ 2 ^ 53 ∧
      (shift = 0 ∨ 2 ^ 52 ≤ num / (den * 2 ^ shift)) := by
  have hpos := Nat.two_pow_pos shift
  have hround := div_le_roundDiv num (den * 2 ^ shift)
  rw [← Nat.div_div_eq_div_mul] at hround ⊢
  have hlt : num / den / 2 ^ shift < 2 ^ 53 := by
    rw [Nat.div_lt_iff_lt_mul hpos, ← Nat.pow_add]
    refine Nat.lt_of_lt_of_le (Nat.lt_log2_self (n := num / den)) ?_
    exact Nat.pow_le_pow_right (by decide) (by omega)
  have hge : shift = 0 ∨ 2 ^ 52 ≤ num / den / 2 ^ shift := by
    by_cases h0 : shift = 0
    · exact .inl h0
    · have hne : num / den ≠ 0 := by
        intro hzero
        rw [hzero, Nat.log2_zero] at hshift
        omega
      refine .inr ((Nat.le_div_iff_mul_le hpos).mpr ?_)
      rw [← Nat.pow_add]
      refine Nat.le_trans ?_ (Nat.log2_self_le hne)
      exact Nat.pow_le_pow_right (by decide) (by omega)
  rw [← hn] at hround
  omega

include hden

/-- Halfway to the code after it. -/
theorem grid_above :
    2 * num ≤ (units (shift * 2 ^ 52 + n) + units (shift * 2 ^ 52 + n + 1)) * den ∧
      (2 * num = (units (shift * 2 ^ 52 + n) + units (shift * 2 ^ 52 + n + 1)) * den →
        n % 2 = 0) := by
  obtain ⟨hle, hlt, hgrid⟩ := grid_bounds hshift hn
  have hspec := roundDiv_spec num (Nat.mul_pos hden (Nat.two_pow_pos shift))
  have hstep : 2 ^ shift ≤ 2 ^ ((shift * 2 ^ 52 + n) / 2 ^ 52 - 1) :=
    Nat.pow_le_pow_right (by decide) (by omega)
  have hsum : 2 * (n * (den * 2 ^ shift)) + den * 2 ^ shift ≤
      (units (shift * 2 ^ 52 + n) + units (shift * 2 ^ 52 + n + 1)) * den := by
    rw [units_succ, units_grid hlt (by omega)]
    calc 2 * (n * (den * 2 ^ shift)) + den * 2 ^ shift
        = (n * 2 ^ shift + (n * 2 ^ shift + 2 ^ shift)) * den := by ring
      _ ≤ _ := Nat.mul_le_mul_right den (by omega)
  rw [← hn] at hspec
  refine ⟨by omega, fun heq => hspec.2 (.inr ?_)⟩
  omega

/-- Halfway to the code before it. -/
theorem grid_below {before : Nat} (hbefore : before + 1 = shift * 2 ^ 52 + n) :
    (units before + units (shift * 2 ^ 52 + n)) * den ≤ 2 * num ∧
      ((units before + units (shift * 2 ^ 52 + n)) * den = 2 * num → n % 2 = 0) := by
  obtain ⟨hle, hlt, hgrid⟩ := grid_bounds hshift hn
  have hsucc := units_succ before
  rw [hbefore] at hsucc
  by_cases hfirst : shift = 0 ∨ 2 ^ 52 < n
  · -- the code before is on the same grid
    have hspec := roundDiv_spec num (Nat.mul_pos hden (Nat.two_pow_pos shift))
    have hstep : before / 2 ^ 52 - 1 = shift := by omega
    rw [hstep, units_grid hlt (by omega)] at hsucc
    have hsum : (units before + units (shift * 2 ^ 52 + n)) * den + den * 2 ^ shift =
        2 * (n * (den * 2 ^ shift)) := by
      rw [units_grid hlt (by omega)]
      calc (units before + n * 2 ^ shift) * den + den * 2 ^ shift
          = ((units before + 2 ^ shift) + n * 2 ^ shift) * den := by ring
        _ = (n * 2 ^ shift + n * 2 ^ shift) * den := by rw [← hsucc]
        _ = 2 * (n * (den * 2 ^ shift)) := by ring
    rw [← hn] at hspec
    refine ⟨by omega, fun heq => hspec.2 (.inl ?_)⟩
    omega
  · -- the code is a power of two, and the number is not below it
    have hn52 : n = 2 ^ 52 := by omega
    have hnum : n * (den * 2 ^ shift) ≤ num := by
      rw [← Nat.le_div_iff_mul_le (Nat.mul_pos hden (Nat.two_pow_pos shift))]
      omega
    have hlarge : units (shift * 2 ^ 52 + n) * den ≤ num := by
      rw [units_grid hlt (by omega)]
      calc n * 2 ^ shift * den = n * (den * 2 ^ shift) := by ring
        _ ≤ num := hnum
    have hless : units before * den < units (shift * 2 ^ 52 + n) * den := by
      refine Nat.mul_lt_mul_of_pos_right (strictMono_units ?_) hden
      omega
    rw [Nat.add_mul]
    omega

end Grid

/-- What is rounded beyond the doubles is at least the power of two after the greatest of them. -/
theorem units_infinityCode_mul_le {num den : Nat} (hden : 0 < den)
    (h : infinityCode < ((num / den).log2 - 52) * 2 ^ 52 +
      roundDiv num (den * 2 ^ ((num / den).log2 - 52))) :
    units infinityCode * den ≤ num := by
  obtain ⟨k, hk, hinf⟩ : ∃ k, k = 2046 ∧ infinityCode = k * 2 ^ 52 + 2 ^ 52 := ⟨2046, rfl, rfl⟩
  obtain ⟨_, hlt, hgrid⟩ := @grid_bounds num den _ _ rfl rfl
  generalize (num / den).log2 - 52 = shift at *
  have hlimit : infinityCode = 2047 * 2 ^ 52 := rfl
  have hshift : k ≤ shift := by omega
  have hlarge : 2 ^ 52 ≤ num / (den * 2 ^ shift) := by omega
  rw [Nat.le_div_iff_mul_le (Nat.mul_pos hden (Nat.two_pow_pos shift))] at hlarge
  rw [hinf, units_grid (by omega) (by omega)]
  calc 2 ^ 52 * 2 ^ k * den ≤ 2 ^ 52 * 2 ^ shift * den :=
        Nat.mul_le_mul_right den (Nat.mul_le_mul_left _ (Nat.pow_le_pow_right (by decide) hshift))
    _ = 2 ^ 52 * (den * 2 ^ shift) := by ring
    _ ≤ num := hlarge

/-- The code that a fraction is rounded to lies within half a step of it. -/
theorem brackets_nearestCode (num : Nat) {den : Nat} (hden : 0 < den) :
    Brackets (num * 2 ^ unitBits) den (nearestCode num den) := by
  simp only [nearestCode, Nat.pow_eq]
  generalize num * 2 ^ unitBits = scaled
  have hparity : ∀ shift n : Nat, (shift * 2 ^ 52 + n) % 2 = n % 2 := by
    intro shift n
    omega
  rcases Nat.lt_or_ge infinityCode (((scaled / den).log2 - 52) * 2 ^ 52 +
      roundDiv scaled (den * 2 ^ ((scaled / den).log2 - 52))) with hlt | hle
  · have hlarge := units_infinityCode_mul_le hden hlt
    rw [Nat.min_eq_right (Nat.le_of_lt hlt)]
    refine ⟨Nat.le_refl _, fun before hbefore => ?_, fun h => absurd h (Nat.lt_irrefl _)⟩
    have hless : units before * den < units infinityCode * den := by
      refine Nat.mul_lt_mul_of_pos_right (strictMono_units ?_) hden
      omega
    rw [Nat.add_mul]
    exact ⟨by omega, fun _ => rfl⟩
  · rw [Nat.min_eq_left hle]
    refine ⟨hle, fun before hbefore => ?_, fun _ => ?_⟩
    · rw [hparity]
      exact grid_below hden rfl rfl hbefore
    · rw [hparity]
      exact grid_above hden rfl rfl

/-! ### The nearest double -/

/-- The number that a code stands for, its sign apart.  Infinity stands for the power of two after
the greatest double. -/
def valueOf (code : Nat) : ℚ :=
  units code / 2 ^ unitBits

/-- The code is the nearest one to a number, and if another one is as near, it is even. -/
structure RoundsTo (q : ℚ) (code : Nat) : Prop where
  le : code ≤ infinityCode
  nearest : ∀ other ≤ infinityCode, |q - valueOf code| ≤ |q - valueOf other|
  even : ∀ other ≤ infinityCode, other ≠ code → |q - valueOf code| = |q - valueOf other| →
    code % 2 = 0

theorem strictMono_valueOf : StrictMono valueOf := by
  intro code code' hlt
  have hpos : (0 : ℚ) < 2 ^ unitBits := pow_pos (by norm_num) unitBits
  exact div_lt_div_of_pos_right (Nat.cast_lt.mpr (strictMono_units hlt)) hpos

/-- A number is rounded to a code if it is at most halfway to the codes beside it. -/
theorem roundsTo_of_halfway {q : ℚ} {code : Nat} (hle : code ≤ infinityCode)
    (hbelow : ∀ before, before + 1 = code → valueOf before + valueOf code ≤ 2 * q ∧
      (valueOf before + valueOf code = 2 * q → code % 2 = 0))
    (habove : code < infinityCode → 2 * q ≤ valueOf code + valueOf (code + 1) ∧
      (2 * q = valueOf code + valueOf (code + 1) → code % 2 = 0)) :
    RoundsTo q code := by
  have hothers : ∀ other ≤ infinityCode, other ≠ code →
      |q - valueOf code| ≤ |q - valueOf other| ∧
        (|q - valueOf code| = |q - valueOf other| → code % 2 = 0) := by
    intro other hother hne
    rcases Nat.lt_or_gt_of_ne hne with hlt | hgt
    · -- the other code is below, so the one before the code is at least as near
      obtain ⟨before, rfl⟩ : ∃ before, code = before + 1 := ⟨code - 1, by omega⟩
      obtain ⟨hhalf, heven⟩ := hbelow before rfl
      have hmono := strictMono_valueOf.monotone (Nat.le_of_lt_succ hlt)
      have hstep := strictMono_valueOf (Nat.lt_succ_self before)
      rw [Nat.succ_eq_add_one] at hstep
      have hfar : |q - valueOf other| = q - valueOf other := abs_of_nonneg (by linarith)
      rw [hfar]
      refine ⟨abs_le.mpr ⟨by linarith, by linarith⟩, fun heq => heven ?_⟩
      rcases abs_cases (q - valueOf (before + 1)) with ⟨habs, _⟩ | ⟨habs, _⟩
      · linarith
      · linarith
    · obtain ⟨hhalf, heven⟩ := habove (by omega)
      have hmono := strictMono_valueOf.monotone (Nat.succ_le_of_lt hgt)
      have hstep := strictMono_valueOf (Nat.lt_succ_self code)
      rw [Nat.succ_eq_add_one] at hstep hmono
      have hfar : |q - valueOf other| = -(q - valueOf other) := abs_of_nonpos (by linarith)
      rw [hfar]
      refine ⟨abs_le.mpr ⟨by linarith, by linarith⟩, fun heq => heven ?_⟩
      rcases abs_cases (q - valueOf code) with ⟨habs, _⟩ | ⟨habs, _⟩
      · linarith
      · linarith
  refine ⟨hle, fun other hother => ?_, fun other hother hne => (hothers other hother hne).2⟩
  by_cases hne : other = code
  · rw [hne]
  · exact (hothers other hother hne).1

/-- The nearest code of a fraction is the nearest one. -/
theorem roundsTo_nearestCode (num : Nat) {den : Nat} (hden : 0 < den) :
    RoundsTo ((num : ℚ) / den) (nearestCode num den) := by
  have hpos : (0 : ℚ) < 2 ^ unitBits := pow_pos (by norm_num) unitBits
  have hden' : (0 : ℚ) < den := Nat.cast_pos.mpr hden
  have hbrackets := brackets_nearestCode num hden
  -- Sums of two values beside twice the fraction, in units and as numbers.
  have hsum : ∀ a b : Nat, valueOf a + valueOf b =
      ((units a + units b) * den : Nat) / (den * 2 ^ unitBits) := by
    intro a b
    unfold valueOf
    field_simp
    push_cast
    ring
  have htwice : 2 * ((num : ℚ) / den) =
      (2 * (num * 2 ^ unitBits) : Nat) / (den * 2 ^ unitBits) := by
    field_simp
    push_cast
    ring
  have hscale := mul_pos hden' hpos
  refine roundsTo_of_halfway hbrackets.le (fun before hbefore => ?_) fun hlt => ?_
  · obtain ⟨hhalf, heven⟩ := hbrackets.below before hbefore
    rw [hsum, htwice, div_le_div_iff_of_pos_right hscale, div_left_inj' hscale.ne', Nat.cast_le,
      Nat.cast_inj]
    exact ⟨hhalf, heven⟩
  · obtain ⟨hhalf, heven⟩ := hbrackets.above hlt
    rw [hsum, htwice, div_le_div_iff_of_pos_right hscale, div_left_inj' hscale.ne', Nat.cast_le,
      Nat.cast_inj]
    exact ⟨hhalf, heven⟩

/-- A decimal is rounded to the nearest double. -/
theorem Decimal.roundsTo_nearestCode (d : Decimal) : RoundsTo d.value d.nearestCode := by
  rw [d.nearestCode_eq, d.value_eq_div]
  exact Number.roundsTo_nearestCode _ d.denominator_pos

/-- Between two even codes there is one that is nearer than both. -/
theorem not_roundsTo_of_lt {q : ℚ} {code code' : Nat} (h : RoundsTo q code)
    (h' : RoundsTo q code') : ¬code < code' := by
  intro hlt
  have heq := le_antisymm (h.nearest code' h'.le) (h'.nearest code h.le)
  have heven := h.even code' h'.le (Nat.ne_of_gt hlt) heq
  have heven' := h'.even code h.le (Nat.ne_of_lt hlt) heq.symm
  have hnext := h.nearest (code + 1) (by have := h'.le; omega)
  have hbelow := strictMono_valueOf (Nat.lt_succ_self code)
  have habove : valueOf (code + 1) < valueOf code' := strictMono_valueOf (by omega)
  rw [Nat.succ_eq_add_one] at hbelow
  -- The number is halfway between the two, and the next code lies between them.
  rcases abs_cases (q - valueOf code) with ⟨habs, _⟩ | ⟨habs, _⟩ <;>
    rcases abs_cases (q - valueOf code') with ⟨habs', _⟩ | ⟨habs', _⟩ <;>
    rcases abs_cases (q - valueOf (code + 1)) with ⟨habs'', _⟩ | ⟨habs'', _⟩ <;>
    linarith

/-- A number is rounded to one code only. -/
theorem RoundsTo.unique {q : ℚ} {code code' : Nat} (h : RoundsTo q code)
    (h' : RoundsTo q code') : code = code' :=
  Nat.le_antisymm (Nat.le_of_not_lt (not_roundsTo_of_lt h' h))
    (Nat.le_of_not_lt (not_roundsTo_of_lt h h'))

end Spreadsheet.Number

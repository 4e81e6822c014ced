import Mathlib.Algebra.Order.Field.Power
import Mathlib.Data.Rat.Cast.Order
import Mathlib.Tactic.FieldSimp
import Mathlib.Tactic.Positivity
import Mathlib.Tactic.Ring
import Spreadsheet.Number.Decimal

/-!
Rounding to the nearest double.

`nearestCode` looks at a fraction as a ratio only (`nearestCode_mul`), and the bounds that keep the
powers of ten small do not show (`Decimal.nearestCode_eq`): so decimals of one value round to one
double (`Decimal.nearestCode_congr`).  The exact value of a double rounds to it
(`nearestCode_units`), and so does its shortest decimal (`nearestCode_shortest`).
-/

namespace Spreadsheet.Number

theorem roundDiv_mul {k : Nat} (hk : 0 < k) (num den : Nat) :
    roundDiv (num * k) (den * k) = roundDiv num den := by
  have hlt : ∀ a b : Nat, 2 * (a * k) < b * k ↔ 2 * a < b := by
    intro a b
    rw [← Nat.mul_assoc, Nat.mul_lt_mul_right hk]
  have hgt : ∀ a b : Nat, b * k < 2 * (a * k) ↔ b < 2 * a := by
    intro a b
    rw [← Nat.mul_assoc, Nat.mul_lt_mul_right hk]
  simp only [roundDiv, Nat.mul_div_mul_right _ _ hk, Nat.mul_mod_mul_right, hlt, hgt]

theorem roundDiv_eq_zero {num den : Nat} (h : 2 * num < den) : roundDiv num den = 0 := by
  have hlt : num < den := by omega
  simp only [roundDiv, Nat.div_eq_of_lt hlt, Nat.mod_eq_of_lt hlt, if_pos h]

/-- Only the ratio counts. -/
theorem nearestCode_mul {k : Nat} (hk : 0 < k) (num den : Nat) :
    nearestCode (num * k) (den * k) = nearestCode num den := by
  have hscaled : num * k * Nat.pow 2 unitBits = num * Nat.pow 2 unitBits * k :=
    Nat.mul_right_comm ..
  simp only [nearestCode, hscaled, Nat.mul_div_mul_right _ _ hk]
  rw [Nat.mul_right_comm den k, roundDiv_mul hk]

theorem nearestCode_congr {num den num' den' : Nat} (hden : 0 < den) (hden' : 0 < den')
    (h : num * den' = num' * den) : nearestCode num den = nearestCode num' den' := by
  rw [← nearestCode_mul hden' num den, ← nearestCode_mul hden num' den', h, Nat.mul_comm den den']

/-- A fraction of less than half the least double rounds to zero. -/
theorem nearestCode_eq_zero {num den : Nat} (h : 2 * (num * Nat.pow 2 unitBits) < den) :
    nearestCode num den = 0 := by
  simp only [nearestCode]
  rw [Nat.div_eq_of_lt (by omega)]
  show min (0 * _ + roundDiv _ (den * 1)) _ = 0
  rw [Nat.mul_one, roundDiv_eq_zero h]
  rfl

/-- What is at least `2 ^ k`, a power above the doubles' range, rounds to infinity. -/
theorem nearestCode_eq_infinityCode {num den k : Nat} (hden : 0 < den) (hk : 1025 ≤ k)
    (h : 2 ^ k * den ≤ num) : nearestCode num den = infinityCode := by
  refine Nat.le_antisymm (nearestCode_le num den) (Nat.le_min.mpr ⟨?_, Nat.le_refl _⟩)
  have hunit : unitBits = 1074 := rfl
  generalize unitBits = u at *
  have hquot : 2 ^ (k + u) ≤ num * Nat.pow 2 u / den := by
    rw [Nat.le_div_iff_mul_le hden, Nat.pow_add, Nat.mul_right_comm]
    exact Nat.mul_le_mul_right _ h
  have hpos : 0 < 2 ^ (k + u) := Nat.two_pow_pos _
  have hlog := (Nat.le_log2 (by omega)).mpr hquot
  have hshift : 2047 ≤ (num * Nat.pow 2 u / den).log2 - 52 := by omega
  calc infinityCode = 2047 * Nat.pow 2 52 := rfl
    _ ≤ ((num * Nat.pow 2 u / den).log2 - 52) * Nat.pow 2 52 := Nat.mul_le_mul_right _ hshift
    _ ≤ _ := Nat.le_add_right _ _

theorem two_pow_unitBits_pos : 0 < Nat.pow 2 unitBits := by
  generalize unitBits = u
  exact Nat.two_pow_pos u

theorem units_of_lt {code : Nat} (h : code < 2 ^ 52) : units code = code := by
  rw [units, Nat.pow_eq, if_pos (Nat.div_eq_of_lt h)]

theorem units_of_le {code : Nat} (h : 2 ^ 52 ≤ code) :
    units code = (2 ^ 52 + code % 2 ^ 52) * 2 ^ (code / 2 ^ 52 - 1) := by
  rw [units, Nat.pow_eq, Nat.pow_eq, if_neg (Nat.ne_of_gt (Nat.div_pos h (Nat.two_pow_pos 52)))]

theorem log2_mul_two_pow {m : Nat} (h : 2 ^ 52 ≤ m) (h' : m < 2 ^ 53) (k : Nat) :
    (m * 2 ^ k).log2 = 52 + k := by
  have hpk : 0 < 2 ^ k := Nat.two_pow_pos k
  have hne : m * 2 ^ k ≠ 0 := Nat.ne_of_gt (Nat.mul_pos (by omega) hpk)
  refine Nat.le_antisymm (Nat.le_of_lt_succ ((Nat.log2_lt hne).mpr ?_)) ((Nat.le_log2 hne).mpr ?_)
  · rw [show (52 + k).succ = 53 + k by omega, Nat.pow_add]
    exact Nat.mul_lt_mul_of_pos_right h' hpk
  · rw [Nat.pow_add]
    exact Nat.mul_le_mul_right _ h

/-- The exact value of a double rounds to it. -/
theorem nearestCode_units {code : Nat} (h : code ≤ infinityCode) :
    nearestCode (units code) (Nat.pow 2 unitBits) = code := by
  have hu := two_pow_unitBits_pos
  unfold nearestCode
  generalize Nat.pow 2 unitBits = u at *
  have hscaled : ∀ k, roundDiv (units code * u) (u * k) = roundDiv (units code) k := by
    intro k
    rw [Nat.mul_comm u, roundDiv_mul hu]
  simp only [Nat.mul_div_cancel _ hu, hscaled, Nat.pow_eq]
  by_cases hsub : code < 2 ^ 52
  · -- A subnormal number is its own code.
    have hlog : code.log2 - 52 = 0 := by
      rcases Nat.eq_zero_or_pos code with rfl | hpos
      · rfl
      · have := (Nat.log2_lt (Nat.ne_of_gt hpos)).mpr hsub
        omega
    rw [units_of_lt hsub, hlog, Nat.pow_zero, roundDiv_one, Nat.zero_mul, Nat.zero_add]
    exact Nat.min_eq_left h
  · -- The power of two is what the shift takes away, and nothing is left to round.
    have hm : code % 2 ^ 52 < 2 ^ 52 := Nat.mod_lt _ (Nat.two_pow_pos 52)
    have hround := roundDiv_mul (Nat.two_pow_pos (code / 2 ^ 52 - 1)) (2 ^ 52 + code % 2 ^ 52) 1
    rw [Nat.one_mul, roundDiv_one] at hround
    rw [units_of_le (by omega), log2_mul_two_pow (by omega) (by omega), Nat.add_sub_cancel_left,
      hround]
    omega

namespace Decimal

/-- The number that a decimal stands for. -/
def value (d : Decimal) : ℚ :=
  d.digits * (10 : ℚ) ^ d.exponent

theorem denominator_pos (d : Decimal) : 0 < d.denominator :=
  Nat.pow_pos (by decide)

theorem value_eq_div (d : Decimal) : d.value = (d.numerator : ℚ) / d.denominator := by
  unfold value numerator denominator
  simp only [Nat.pow_eq, Nat.cast_mul, Nat.cast_pow, Nat.cast_ofNat]
  rcases Int.le_total 0 d.exponent with h | h
  · obtain ⟨n, hn⟩ := Int.eq_ofNat_of_zero_le h
    simp [hn]
  · obtain ⟨n, hn⟩ : ∃ n : Nat, d.exponent = -(n : Int) := ⟨(-d.exponent).toNat, by omega⟩
    simp [hn, div_eq_mul_inv]

theorem two_pow_le_ten_pow {j k : Nat} (h : j ≤ 3 * k) : 2 ^ j ≤ 10 ^ k :=
  calc 2 ^ j ≤ 2 ^ (3 * k) := Nat.pow_le_pow_right (by decide) h
    _ = 8 ^ k := Nat.pow_mul ..
    _ ≤ 10 ^ k := Nat.pow_le_pow_left (by decide) k

theorem digits_lt (d : Decimal) : d.digits < 10 ^ digitCount d.digits :=
  (Nat.length_toDigits_le_iff (by decide) Nat.length_toDigits_pos).mp (Nat.le_refl _)

theorem le_digits (d : Decimal) (h : d.digits ≠ 0) :
    10 ^ (digitCount d.digits - 1) ≤ d.digits := by
  have hpos : 0 < digitCount d.digits := Nat.length_toDigits_pos
  rcases Nat.eq_zero_or_pos (digitCount d.digits - 1) with hone | hmore
  · rw [hone, Nat.pow_zero]
    exact Nat.pos_of_ne_zero h
  · refine Nat.le_of_not_lt fun hlt => ?_
    have := (Nat.length_toDigits_le_iff (b := 10) (by decide) hmore).mpr hlt
    unfold digitCount at *
    omega

/-- What is below `10 ^ -400` is less than half the least double. -/
theorem lt_denominator {d : Decimal} (h : d.point < -400) :
    2 * (d.numerator * Nat.pow 2 unitBits) < d.denominator := by
  have hunit : unitBits = 1074 := rfl
  have hdigits := d.digits_lt
  unfold point at h
  unfold numerator denominator
  generalize unitBits = u at *
  obtain ⟨n, hn, hlarge⟩ : ∃ n : Nat, d.exponent = -((digitCount d.digits + n : Nat) : Int) ∧
      401 ≤ n := ⟨(-d.exponent).toNat - digitCount d.digits, by omega, by omega⟩
  rw [hn]
  simp only [Nat.pow_eq, neg_neg, Int.toNat_natCast, Int.toNat_neg_natCast, Nat.pow_zero,
    Nat.mul_one]
  calc 2 * (d.digits * 2 ^ u) = d.digits * 2 ^ (u + 1) := by ring
    _ < 10 ^ digitCount d.digits * 2 ^ (u + 1) :=
      Nat.mul_lt_mul_of_pos_right hdigits (Nat.two_pow_pos _)
    _ ≤ 10 ^ digitCount d.digits * 10 ^ n :=
      Nat.mul_le_mul_left _ (two_pow_le_ten_pow (by omega))
    _ = 10 ^ (digitCount d.digits + n) := (Nat.pow_add ..).symm

/-- What is above `10 ^ 400` is beyond the doubles. -/
theorem le_numerator {d : Decimal} (h0 : d.digits ≠ 0) (h : 400 < d.point) :
    2 ^ 1025 * d.denominator ≤ d.numerator := by
  have hdigits := d.le_digits h0
  have hpos : 0 < digitCount d.digits := Nat.length_toDigits_pos
  unfold point at h
  unfold numerator denominator
  obtain ⟨n, hn, hlarge⟩ : ∃ n, digitCount d.digits - 1 + d.exponent.toNat
      = n + (-d.exponent).toNat ∧ 400 ≤ n :=
    ⟨digitCount d.digits - 1 + d.exponent.toNat - (-d.exponent).toNat, by omega, by omega⟩
  simp only [Nat.pow_eq]
  calc 2 ^ 1025 * 10 ^ (-d.exponent).toNat
      ≤ 10 ^ n * 10 ^ (-d.exponent).toNat :=
        Nat.mul_le_mul_right _ (two_pow_le_ten_pow (by omega))
    _ = 10 ^ (digitCount d.digits - 1) * 10 ^ d.exponent.toNat := by
        rw [← Nat.pow_add, ← Nat.pow_add, hn]
    _ ≤ d.digits * 10 ^ d.exponent.toNat := Nat.mul_le_mul_right _ hdigits

/-- The bounds at which a decimal is taken for zero or for infinity make no difference. -/
theorem nearestCode_eq (d : Decimal) :
    d.nearestCode = Number.nearestCode d.numerator d.denominator := by
  unfold nearestCode
  split
  · next hsmall =>
    refine (Number.nearestCode_eq_zero ?_).symm
    rcases hsmall with hzero | hpoint
    · rw [numerator, hzero, Nat.zero_mul, Nat.zero_mul]
      exact d.denominator_pos
    · exact lt_denominator hpoint
  split
  · next hsmall hlarge =>
    have hnum := le_numerator (fun hzero => hsmall (Or.inl hzero)) hlarge
    exact (Number.nearestCode_eq_infinityCode d.denominator_pos (Nat.le_refl 1025) hnum).symm
  · rfl

/-- Decimals that stand for the same number round to the same double. -/
theorem nearestCode_congr {d d' : Decimal} (h : d.value = d'.value) :
    d.nearestCode = d'.nearestCode := by
  rw [nearestCode_eq, nearestCode_eq]
  refine Number.nearestCode_congr d.denominator_pos d'.denominator_pos ?_
  have hden : (d.denominator : ℚ) ≠ 0 := Nat.cast_ne_zero.mpr (Nat.ne_of_gt d.denominator_pos)
  have hden' : (d'.denominator : ℚ) ≠ 0 := Nat.cast_ne_zero.mpr (Nat.ne_of_gt d'.denominator_pos)
  rw [value_eq_div, value_eq_div, div_eq_div_iff hden hden'] at h
  exact_mod_cast h

end Decimal

theorem nearestCode_of_nearestOnGrid {code : Nat} {exponent : Int} {d : Decimal}
    (h : nearestOnGrid code exponent = some d) : d.nearestCode = code := by
  simp only [nearestOnGrid] at h
  split at h
  · cases h
  · next hbelow _ =>
    cases h
    exact of_decide_eq_true hbelow
  · next habove =>
    cases h
    exact of_decide_eq_true habove
  · next hbelow habove =>
    split at h
    · cases h
      exact of_decide_eq_true hbelow
    split at h
    · cases h
      exact of_decide_eq_true habove
    split at h
    · cases h
      exact of_decide_eq_true hbelow
    · cases h
      exact of_decide_eq_true habove

theorem nearestCode_exactDecimal {code : Nat} (h : code ≤ infinityCode) :
    (exactDecimal code).nearestCode = code := by
  refine Eq.trans ?_ (nearestCode_units h)
  rw [Decimal.nearestCode_eq]
  refine nearestCode_congr (Decimal.denominator_pos _) two_pow_unitBits_pos ?_
  unfold exactDecimal Decimal.numerator Decimal.denominator
  generalize unitBits = u
  simp only [Nat.pow_eq, neg_neg, Int.toNat_natCast, Int.toNat_neg_natCast, Nat.pow_zero,
    Nat.mul_one]
  rw [Nat.mul_assoc, ← Nat.mul_pow]

/-- What is written of a double rounds to it. -/
theorem nearestCode_shortest {code : Nat} (h : code ≤ infinityCode) :
    (shortest code).nearestCode = code := by
  unfold shortest
  dsimp only
  cases hfound : (List.range 17).findSome? fun n : Nat =>
      nearestOnGrid code (pointOfCode code - (n + 1)) with
  | none => exact nearestCode_exactDecimal h
  | some d =>
    obtain ⟨n, _, hn⟩ := List.exists_of_findSome?_eq_some hfound
    exact nearestCode_of_nearestOnGrid hn

theorem digits_shortest_ne_zero {code : Nat} (h0 : code ≠ 0) (h : code ≤ infinityCode) :
    (shortest code).digits ≠ 0 := by
  intro hzero
  have hcode := nearestCode_shortest h
  rw [Decimal.nearestCode, if_pos (Or.inl hzero)] at hcode
  exact h0 hcode.symm

end Spreadsheet.Number

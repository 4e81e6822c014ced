import Mathlib
import Spreadsheet.Number.Binary64

/-!
Doubles and their bits.

The logical model of doubles keeps a double as its bits and unpacks them for every operation.  Here
packing undoes unpacking (`pack_unpack_packComponents`), so that a double is determined by its
sign and its code: `ofCode` and `Parts.ofFloat` are inverse to each other (`ofCode_of_finite`,
`ofFloat_ofCode`).  `describes_ofFloat` sets the parts beside the unpacked form, and with it come
the facts on absolute value, sign and what is not a number.
-/

namespace Spreadsheet.Number

open Float.Model (Format UnpackedFloat)
open Float.Model.UnpackedFloat

section Components

variable (s : Sign) (e : BitVec 11) (m : BitVec 52)

theorem toNat_packComponents :
    (packComponents Format.binary64 s e m).toNat
      = s.toBitVec.toNat * 2 ^ 63 + (e.toNat * 2 ^ 52 + m.toNat) := by
  unfold packComponents
  rw [BitVec.toNat_append, BitVec.toNat_append, ← Nat.shiftLeft_add_eq_or_of_lt e.isLt,
    ← Nat.shiftLeft_add_eq_or_of_lt m.isLt]
  simp only [Nat.shiftLeft_eq]
  omega

theorem ofBitVec_unpackSign_packComponents :
    Sign.ofBitVec (unpackSign (packComponents Format.binary64 s e m)) = s := by
  simp only [unpackSign, packComponents, BitVec.extractLsb]
  rw [BitVec.extractLsb'_append_eq_of_le (by omega),
    BitVec.extractLsb'_append_eq_of_le (by omega)]
  cases s <;> rfl

theorem exists_packComponents (b : BitVec 64) :
    ∃ s e m, b = packComponents Format.binary64 s e m := by
  refine ⟨Sign.ofBitVec (b.extractLsb' 63 1), b.extractLsb' 52 11, b.extractLsb' 0 52, ?_⟩
  have hsign : (Sign.ofBitVec (b.extractLsb' 63 1)).toBitVec = b.extractLsb' 63 1 := by
    unfold Sign.ofBitVec
    split
    · next h => exact h.symm
    · next h =>
      have hlt := (b.extractLsb' 63 1).isLt
      have hne : (b.extractLsb' 63 1).toNat ≠ 0 := fun h0 => h (BitVec.eq_of_toNat_eq h0)
      refine BitVec.eq_of_toNat_eq ?_
      simp only [Sign.toBitVec]
      change 1 = _
      omega
  rw [packComponents, hsign]
  ext i hi
  grind

theorem unpack_packComponents :
    UnpackedFloat.unpack Format.binary64 (packComponents Format.binary64 s e m) =
      if e = -1#11 then if m = 0#52 then .infinity s else .notANumber
      else if e = 0#11 then
        if h : m = 0#52 then .zero s
        else .finite s m.toNat (-1074) (by simpa [BitVec.toNat_pos, BitVec.pos_iff_ne_zero])
      else .finite s (2 ^ 52 + m.toNat) (e.toNat - 1075) (by omega) := by
  have hm : (1#1 ++ m).toNat = 2 ^ 52 + m.toNat := by
    rw [BitVec.toNat_append, ← Nat.shiftLeft_add_eq_or_of_lt m.isLt]
    rfl
  have hbias : ((Format.binary64.exponentBias : Nat) : Int) + ((52 : Nat) : Int) = 1075 := rfl
  unfold UnpackedFloat.unpack
  simp only [unpackMantissa_packComponents, unpackExponent_packComponents,
    ofBitVec_unpackSign_packComponents, hm, hbias]
  split
  · rfl
  split
  · next h =>
    rw [h]
    rfl
  · rfl


theorem log2_eq_of_lt {m : Nat} (h : m < 2 ^ 52) : (2 ^ 52 + m).log2 = 52 := by
  refine Nat.le_antisymm ?_ ?_
  · refine Nat.le_of_lt_succ ((Nat.log2_lt (by omega)).mpr (by omega))
  · exact (Nat.le_log2 (by omega)).mpr (by omega)

/-- What was packed validly comes back. -/
theorem pack_unpack_packComponents
    (hvalid : Format.binary64.Valid (packComponents Format.binary64 s e m)) :
    UnpackedFloat.pack Format.binary64
        (UnpackedFloat.unpack Format.binary64 (packComponents Format.binary64 s e m)) =
      packComponents Format.binary64 s e m := by
  have hbias : ((Format.binary64.exponentBias : Nat) : Int) = 1023 := rfl
  have hbits : Format.binary64.mantissaBits = 53 := rfl
  have hm := m.isLt
  have he := e.isLt
  rw [unpack_packComponents]
  split
  · next hlast =>
    split
    · next hzero =>
      rw [hlast, hzero]
      rfl
    · next hnan =>
      refine (hvalid.eq_packedNaN ?_ ?_).symm
      · rw [unpackExponent_packComponents, hlast]
      · rwa [unpackMantissa_packComponents]
  split
  · next hzero =>
    split
    · next hm0 =>
      rw [hzero, hm0]
      rfl
    · next hm0 =>
      -- A subnormal number: its mantissa is too small for the leading bit.
      have hlog : m.toNat.log2 < 52 :=
        (Nat.log2_lt fun h => hm0 (BitVec.eq_of_toNat_eq h)).mpr hm
      simp only [UnpackedFloat.pack, hbias, hbits]
      rw [if_neg (by decide), if_neg (by omega), BitVec.ofNat_toNat, BitVec.setWidth_eq, hzero]
  · next hlast hzero =>
    have he0 : e.toNat ≠ 0 := fun h => hzero (BitVec.eq_of_toNat_eq h)
    have he1 : e.toNat ≠ 2047 := fun h => hlast (BitVec.eq_of_toNat_eq h)
    have hexp : ((e.toNat : Int) - 1075 + (1023 : Int) + ((52 : Nat) : Int)).toNat = e.toNat := by
      omega
    have hmant : BitVec.ofNat 52 (2 ^ 52 + m.toNat) = m := by
      refine BitVec.eq_of_toNat_eq ?_
      rw [BitVec.toNat_ofNat]
      omega
    simp only [UnpackedFloat.pack, hbias, hbits, hexp, log2_eq_of_lt hm, hmant]
    rw [if_neg (by omega), if_pos trivial, BitVec.ofNat_toNat, BitVec.setWidth_eq]

end Components

/-- A double is determined by its bits. -/
theorem ofBits_toBits (x : Float) : Float.ofBits x.toBits = x := by
  obtain ⟨⟨bits, hvalid⟩⟩ := x
  obtain ⟨s, e, m, hb⟩ := exists_packComponents bits.toBitVec
  rw [hb] at hvalid
  have hpack := pack_unpack_packComponents s e m hvalid
  rw [← hb] at hpack
  show Float.ofModel (Float.Model.ofBits bits) = _
  simp only [Float.Model.ofBits, Float.Model.pack, hpack]

/-- The sign and the code say which double it is. -/
theorem ofCode_bits (x : Float) :
    ofCode (decide (2 ^ 63 ≤ x.toBits.toNat)) (x.toBits.toNat % 2 ^ 63) = x := by
  have hlt := x.toBits.toNat_lt
  have hbits : (if decide (2 ^ 63 ≤ x.toBits.toNat) then Nat.pow 2 63 else 0)
      + x.toBits.toNat % 2 ^ 63 = x.toBits.toNat := by
    show (if _ then 2 ^ 63 else 0) + _ = _
    by_cases hsign : 2 ^ 63 ≤ x.toBits.toNat
    · rw [decide_eq_true hsign, if_pos rfl]
      omega
    · rw [decide_eq_false hsign, if_neg Bool.false_ne_true]
      omega
  rw [ofCode, hbits]
  show Float.ofBits (UInt64.ofNat x.toBits.toNat) = x
  rw [UInt64.ofNat_toNat, ofBits_toBits]

theorem ofCode_of_finite {x : Float} {negative : Bool} {code : Nat}
    (h : Parts.ofFloat x = .finite negative code) : ofCode negative code = x := by
  simp only [Parts.ofFloat] at h
  split at h
  · cases h
    exact ofCode_bits x
  · split at h <;> cases h

theorem ofCode_of_infinite {x : Float} {negative : Bool}
    (h : Parts.ofFloat x = .infinite negative) : ofCode negative infinityCode = x := by
  simp only [Parts.ofFloat] at h
  split at h
  · cases h
  · split at h
    · next hcode =>
      cases h
      rw [← hcode]
      exact ofCode_bits x
    · cases h

theorem lt_infinityCode_of_finite {x : Float} {negative : Bool} {code : Nat}
    (h : Parts.ofFloat x = .finite negative code) : code < infinityCode := by
  simp only [Parts.ofFloat] at h
  split at h
  · cases h
    assumption
  · split at h <;> cases h

/-- The sign bit. -/
def signOf (negative : Bool) : Sign :=
  if negative then .negative else .positive

theorem toNat_toBitVec_signOf (negative : Bool) :
    (signOf negative).toBitVec.toNat * 2 ^ 63 = if negative then 2 ^ 63 else 0 := by
  cases negative <;> decide

/-- A code is an exponent and a mantissa, and the double with that code has them in its bits. -/
theorem exists_toBitVec_toBits_ofCode {code : Nat} (h : code ≤ infinityCode) :
    ∃ e m, e.toNat * 2 ^ 52 + m.toNat = code ∧ ∀ negative,
      (ofCode negative code).toBits.toBitVec
        = packComponents Format.binary64 (signOf negative) e m := by
  have hlimit : infinityCode = 2047 * 2 ^ 52 := rfl
  have he : (BitVec.ofNat 11 (code / 2 ^ 52)).toNat = code / 2 ^ 52 := by
    rw [BitVec.toNat_ofNat]
    omega
  have hm : (BitVec.ofNat 52 code).toNat = code % 2 ^ 52 := BitVec.toNat_ofNat ..
  refine ⟨BitVec.ofNat 11 (code / 2 ^ 52), BitVec.ofNat 52 code, by omega, fun negative => ?_⟩
  generalize BitVec.ofNat 11 (code / 2 ^ 52) = e at *
  generalize BitVec.ofNat 52 code = m at *
  -- The bits that the double is made from are valid ones, so they are kept.
  have hbits : BitVec.ofNat 64 ((if negative then Nat.pow 2 63 else 0) + code)
      = packComponents Format.binary64 (signOf negative) e m := by
    refine BitVec.eq_of_toNat_eq ?_
    rw [toNat_packComponents, toNat_toBitVec_signOf, BitVec.toNat_ofNat]
    cases negative <;> simp only [Nat.pow_eq, Bool.false_eq_true, if_false, if_true] <;> omega
  have hvalid : Format.binary64.Valid (packComponents Format.binary64 (signOf negative) e m) := by
    refine ⟨fun hlast hne => absurd ?_ hne⟩
    rw [unpackExponent_packComponents] at hlast
    rw [unpackMantissa_packComponents]
    have hlast' : e.toNat = 2047 := by rw [hlast]; rfl
    refine BitVec.eq_of_toNat_eq ?_
    show m.toNat = 0
    omega
  show UnpackedFloat.pack Format.binary64 (UnpackedFloat.unpack Format.binary64
    (BitVec.ofNat 64 ((if negative then Nat.pow 2 63 else 0) + code))) = _
  rw [hbits]
  exact pack_unpack_packComponents _ e m hvalid

theorem toNat_toBits_ofCode (negative : Bool) {code : Nat} (h : code ≤ infinityCode) :
    (ofCode negative code).toBits.toNat = (if negative then 2 ^ 63 else 0) + code := by
  obtain ⟨e, m, hcode, hbits⟩ := exists_toBitVec_toBits_ofCode h
  show (ofCode negative code).toBits.toBitVec.toNat = _
  rw [hbits, toNat_packComponents, hcode, toNat_toBitVec_signOf]

theorem ofFloat_ofCode (negative : Bool) {code : Nat} (h : code ≤ infinityCode) :
    Parts.ofFloat (ofCode negative code) =
      if code < infinityCode then .finite negative code else .infinite negative := by
  have hlimit : infinityCode = 2047 * 2 ^ 52 := rfl
  have hneg : decide (2 ^ 63 ≤ (if negative then 2 ^ 63 else 0) + code) = negative := by
    cases negative with
    | false =>
      refine decide_eq_false ?_
      show ¬2 ^ 63 ≤ 0 + code
      omega
    | true => exact decide_eq_true (Nat.le_add_right _ _)
  have hcode : ((if negative then 2 ^ 63 else 0) + code) % 2 ^ 63 = code := by
    cases negative with
    | false =>
      show (0 + code) % 2 ^ 63 = code
      omega
    | true =>
      show (2 ^ 63 + code) % 2 ^ 63 = code
      omega
  unfold Parts.ofFloat
  simp only [toNat_toBits_ofCode negative h]
  simp only [Nat.pow_eq, hneg, hcode]
  split
  · rfl
  · rw [if_pos (by omega)]

/-- Taking the sign off leaves the code. -/
theorem abs_ofCode (negative : Bool) {code : Nat} (h : code ≤ infinityCode) :
    (ofCode negative code).abs = ofCode false code := by
  obtain ⟨e, m, _, hbits⟩ := exists_toBitVec_toBits_ofCode h
  rw [← ofBits_toBits (ofCode false code)]
  show Float.ofModel (Float.Model.pack
      (UnpackedFloat.unpack Format.binary64 (ofCode negative code).toBits.toBitVec).abs)
    = Float.ofModel (Float.Model.pack
      (UnpackedFloat.unpack Format.binary64 (ofCode false code).toBits.toBitVec))
  rw [hbits, hbits, unpack_packComponents, unpack_packComponents]
  congr 2
  -- Neither the cases nor the parts depend on the sign.
  split
  · split <;> rfl
  split
  · split <;> rfl
  · rfl

/-- The parts of a double beside its unpacked form. -/
inductive Parts.Describes : Parts → UnpackedFloat → Prop
  | notANumber : Describes .notANumber .notANumber
  | infinite (negative : Bool) : Describes (.infinite negative) (.infinity (signOf negative))
  | zero (negative : Bool) : Describes (.finite negative 0) (.zero (signOf negative))
  | nonzero (negative : Bool) {code : Nat} (hcode : code ≠ 0) (m : Nat) (e : Int) (h : 0 < m) :
      Describes (.finite negative code) (.finite (signOf negative) m e h)

theorem describes_ofFloat (x : Float) : (Parts.ofFloat x).Describes x.toModel.unpack := by
  have hlimit : infinityCode = 2047 * 2 ^ 52 := rfl
  obtain ⟨s, e, m, hb⟩ := exists_packComponents x.toBits.toBitVec
  have hnat : x.toBits.toNat = _ := congrArg BitVec.toNat hb
  rw [toNat_packComponents] at hnat
  have hm : m.toNat < 2 ^ 52 := m.isLt
  have he : e.toNat < 2 ^ 11 := e.isLt
  have hcode : x.toBits.toNat % Nat.pow 2 63 = e.toNat * 2 ^ 52 + m.toNat := by
    show _ % 2 ^ 63 = _
    omega
  have hsign : signOf (decide (Nat.pow 2 63 ≤ x.toBits.toNat)) = s := by
    cases s
    · have hs : Sign.negative.toBitVec.toNat = 1 := rfl
      rw [hs] at hnat
      rw [decide_eq_true (by simp only [Nat.pow_eq]; omega)]
      rfl
    · have hs : Sign.positive.toBitVec.toNat = 0 := rfl
      rw [hs] at hnat
      rw [decide_eq_false (by simp only [Nat.pow_eq]; omega)]
      rfl
  have hlast' : e = -1#11 ↔ e.toNat = 2047 := by rw [← BitVec.toNat_inj]; rfl
  have hzero' : e = 0#11 ↔ e.toNat = 0 := by rw [← BitVec.toNat_inj]; rfl
  have hm' : m = 0#52 ↔ m.toNat = 0 := by rw [← BitVec.toNat_inj]; rfl
  show Parts.Describes _ (UnpackedFloat.unpack Format.binary64 x.toBits.toBitVec)
  rw [hb, unpack_packComponents, ← hsign]
  simp only [Parts.ofFloat, hcode, hlimit]
  by_cases hlast : e = -1#11
  · have he2047 := hlast'.mp hlast
    rw [if_pos hlast, if_neg (by omega)]
    by_cases hm0 : m = 0#52
    · have := hm'.mp hm0
      rw [if_pos hm0, if_pos (by omega)]
      exact .infinite _
    · have := mt hm'.mpr hm0
      rw [if_neg hm0, if_neg (by omega)]
      exact .notANumber
  · have := mt hlast'.mpr hlast
    rw [if_neg hlast, if_pos (by omega)]
    by_cases hzero : e = 0#11
    · have he0 := hzero'.mp hzero
      rw [if_pos hzero]
      by_cases hm0 : m = 0#52
      · rw [dif_pos hm0, he0, hm'.mp hm0]
        exact .zero _
      · have := mt hm'.mpr hm0
        rw [dif_neg hm0]
        exact .nonzero _ (by omega) _ _ _
    · have := mt hzero'.mpr hzero
      rw [if_neg hzero]
      exact .nonzero _ (by omega) _ _ _

theorem ofFloat_ne_notANumber {x : Float} (h : x.isNaN = false) :
    Parts.ofFloat x ≠ .notANumber := by
  intro hparts
  have hdesc := describes_ofFloat x
  change x.toModel.unpack.isNaN = false at h
  generalize x.toModel.unpack = u at hdesc h
  rw [hparts] at hdesc
  cases hdesc
  cases h

theorem exists_ofFloat_eq_finite {x : Float} (h : x.isFinite = true) :
    ∃ negative code, Parts.ofFloat x = .finite negative code := by
  have hdesc := describes_ofFloat x
  change x.toModel.unpack.isFinite = true at h
  generalize x.toModel.unpack = u at hdesc h
  cases hparts : Parts.ofFloat x with
  | notANumber =>
    rw [hparts] at hdesc
    cases hdesc
    cases h
  | infinite negative =>
    rw [hparts] at hdesc
    cases hdesc
    cases h
  | finite negative code => exact ⟨negative, code, rfl⟩

/-- A finite double is below zero if it has a minus sign and is not a zero. -/
theorem lt_zero_iff {x : Float} {negative : Bool} {code : Nat}
    (h : Parts.ofFloat x = .finite negative code) : x < 0.0 ↔ negative = true ∧ code ≠ 0 := by
  have hdesc := describes_ofFloat x
  have hzero : (0.0 : Float).toModel.unpack = .zero .positive := by
    have hdesc0 := describes_ofFloat 0.0
    rw [show Parts.ofFloat 0.0 = .finite false 0 by decide +kernel] at hdesc0
    generalize (0.0 : Float).toModel.unpack = u at hdesc0
    cases hdesc0 with
    | zero => rfl
    | nonzero _ hcode => exact absurd rfl hcode
  have hlt : x < 0.0 ↔ x.toModel.unpack.lt (0.0 : Float).toModel.unpack = true := by
    show Float.lt _ _ ↔ _
    rw [Float.lt, decide_eq_true_iff]
    rfl
  rw [hlt, hzero]
  rw [h] at hdesc
  generalize x.toModel.unpack = u at hdesc
  cases hdesc with
  | zero => cases negative <;> simp [UnpackedFloat.lt, UnpackedFloat.compare]
  | nonzero _ hcode =>
    cases negative <;> simp [UnpackedFloat.lt, UnpackedFloat.compare, signOf, hcode]

end Spreadsheet.Number

import Spreadsheet.Proofs.Json.Strings
import Spreadsheet.Text.Utf8

/-!
Text as bytes and back.

`decodeChar_encodeChar` takes the bytes of a character off the front of any bytes, and
`eq_encodeChar_append` says that nothing else is ever taken.  So bytes are read as a text exactly if
they are what that text is written as (`decode?_eq_ok_iff`): overlong forms, surrogates and
incomplete sequences are refused, and every text comes back.
-/

namespace Spreadsheet.Text.Utf8

open Json (toNat_lt toNat_not_surrogate)

/-- The first bytes by the number of bytes that follow, with the bounds on the second byte. -/
theorem lead?_eq (b : Nat) :
    lead? b =
      if 0xC2 ≤ b ∧ b ≤ 0xDF then some ⟨1, b - 0xC0, 0x80, 0xBF⟩
      else if 0xE0 ≤ b ∧ b ≤ 0xEF then
        some ⟨2, b - 0xE0, if b = 0xE0 then 0xA0 else 0x80, if b = 0xED then 0x9F else 0xBF⟩
      else if 0xF0 ≤ b ∧ b ≤ 0xF4 then
        some ⟨3, b - 0xF0, if b = 0xF0 then 0x90 else 0x80, if b = 0xF4 then 0x8F else 0xBF⟩
      else none := by
  unfold lead?
  grind

theorem toNat_byte {n : Nat} (h : n < 256) : n.toUInt8.toNat = n :=
  Nat.mod_eq_of_lt h

/-- One more byte of a sequence. -/
theorem continuation_cons {code size least greatest count n : Nat} (rest : List UInt8)
    (h : least ≤ n ∧ n ≤ greatest) (hn : n < 256) :
    continuation code size least greatest (count + 1) (n.toUInt8 :: rest)
      = continuation (code * 64 + n % 64) (size + 1) 0x80 0xBF count rest := by
  rw [continuation, toNat_byte hn, if_pos h]

/-- A character's bytes are taken off the front of any bytes. -/
theorem decodeChar_encodeChar (c : Char) (rest : List UInt8) :
    ∃ b bs, encodeChar c = b :: bs ∧ decodeChar b (bs ++ rest) = .ok (c, rest) := by
  have hlt := toNat_lt c
  have hsurrogate := toNat_not_surrogate c
  have hc : Char.ofNat c.toNat = c := Char.ofNat_toNat c
  simp only [encodeChar]
  generalize c.toNat = n at *
  split
  · next h1 =>
    refine ⟨_, _, rfl, ?_⟩
    rw [decodeChar, toNat_byte (by omega), if_pos h1, hc]
    rfl
  split
  · next h1 h2 =>
    refine ⟨_, _, rfl, ?_⟩
    rw [decodeChar, toNat_byte (by omega), if_neg (by omega), lead?_eq, if_pos (by omega)]
    simp only [List.cons_append, List.nil_append]
    rw [continuation_cons _ (by omega) (by omega)]
    simp only [continuation, Except.map]
    rw [show (0xC0 + n / 64 - 0xC0) * 64 + (0x80 + n % 64) % 64 = n by omega, hc]
  split
  · next h1 h2 h3 =>
    refine ⟨_, _, rfl, ?_⟩
    rw [decodeChar, toNat_byte (by omega), if_neg (by omega), lead?_eq, if_neg (by omega),
      if_pos (by omega)]
    simp only [List.cons_append, List.nil_append]
    rw [continuation_cons _ (by split <;> split <;> omega) (by omega),
      continuation_cons _ (by omega) (by omega)]
    simp only [continuation, Except.map]
    rw [show ((0xE0 + n / 4096 - 0xE0) * 64 + (0x80 + n / 64 % 64) % 64) * 64 + (0x80 + n % 64) % 64
      = n by omega, hc]
  · next h1 h2 h3 =>
    refine ⟨_, _, rfl, ?_⟩
    rw [decodeChar, toNat_byte (by omega), if_neg (by omega), lead?_eq, if_neg (by omega),
      if_neg (by omega), if_pos (by omega)]
    simp only [List.cons_append, List.nil_append]
    rw [continuation_cons _ (by split <;> split <;> omega) (by omega),
      continuation_cons _ (by omega) (by omega), continuation_cons _ (by omega) (by omega)]
    simp only [continuation, Except.map]
    rw [show (((0xF0 + n / 262144 - 0xF0) * 64 + (0x80 + n / 4096 % 64) % 64) * 64
      + (0x80 + n / 64 % 64) % 64) * 64 + (0x80 + n % 64) % 64 = n by omega, hc]

theorem decodeFrom_encode (cs : List Char) :
    ∀ (position : Nat) (seen : List Char) (fuel : Nat), cs.length ≤ fuel →
      decodeFrom position seen fuel (cs.flatMap encodeChar) = .ok (seen.reverse ++ cs) := by
  induction cs with
  | nil =>
    intro position seen fuel _
    rw [List.append_nil]
    cases fuel <;> rfl
  | cons c cs ih =>
    intro position seen fuel hfuel
    obtain ⟨fuel, rfl⟩ : ∃ n, fuel = n + 1 := ⟨fuel - 1, by rw [List.length_cons] at hfuel; omega⟩
    obtain ⟨b, bs, hbytes, hchar⟩ := decodeChar_encodeChar c (cs.flatMap encodeChar)
    rw [List.flatMap_cons, hbytes, List.cons_append, decodeFrom, hchar]
    dsimp only
    rw [ih _ _ _ (by rw [List.length_cons] at hfuel; omega), List.reverse_cons, List.append_assoc]
    rfl

/-- Every character takes a byte at least. -/
theorem length_le_length_encode (cs : List Char) : cs.length ≤ (cs.flatMap encodeChar).length := by
  induction cs with
  | nil => exact Nat.le_refl _
  | cons c cs ih =>
    obtain ⟨b, bs, hbytes, _⟩ := decodeChar_encodeChar c []
    rw [List.flatMap_cons, hbytes, List.length_append, List.length_cons, List.length_cons]
    omega

/-- Encoded text is read back. -/
theorem decode?_encode (s : String) : decode? (encode s) = .ok s := by
  unfold decode? encode
  rw [decodeFrom_encode _ _ _ _ (length_le_length_encode s.toList)]
  show Except.ok (String.ofList s.toList) = _
  rw [String.ofList_toList]

theorem continuation_succ_eq_ok {code size least greatest count : Nat} {rest rest' : List UInt8}
    {n : Nat} (h : continuation code size least greatest (count + 1) rest = .ok (n, rest')) :
    ∃ b tail, rest = b :: tail ∧ (least ≤ b.toNat ∧ b.toNat ≤ greatest) ∧
      continuation (code * 64 + b.toNat % 64) (size + 1) 0x80 0xBF count tail = .ok (n, rest') := by
  cases rest with
  | nil => cases h
  | cons b tail =>
    rw [continuation] at h
    split at h
    · next hb => exact ⟨b, tail, rfl, hb, h⟩
    · cases h

theorem toNat_ofNat {n : Nat} (h : n < 0xD800 ∨ 0xE000 ≤ n ∧ n < 0x110000) :
    (Char.ofNat n).toNat = n := by
  have hvalid : n.isValidChar := by
    unfold Nat.isValidChar
    omega
  rw [Char.ofNat, dif_pos hvalid]
  rfl

theorem toUInt8_eq {b : UInt8} {n : Nat} (h : n = b.toNat) : n.toUInt8 = b := by
  rw [h]
  exact UInt8.ofNat_toNat

section Sequences

variable {b : UInt8} {rest rest' : List UInt8} {n : Nat}

theorem eq_encodeChar_two (hb : 0xC2 ≤ b.toNat ∧ b.toNat ≤ 0xDF)
    (h : continuation (b.toNat - 0xC0) 1 0x80 0xBF 1 rest = .ok (n, rest')) :
    b :: rest = encodeChar (Char.ofNat n) ++ rest' := by
  obtain ⟨b1, tail, rfl, hb1, hend⟩ := continuation_succ_eq_ok h
  obtain ⟨hn, rfl⟩ := Prod.mk.inj (Except.ok.inj hend)
  rw [encodeChar, toNat_ofNat (by omega), if_neg (by omega), if_pos (by omega),
    toUInt8_eq (b := b) (by omega), toUInt8_eq (b := b1) (by omega)]
  rfl

theorem eq_encodeChar_three (hb : 0xE0 ≤ b.toNat ∧ b.toNat ≤ 0xEF)
    (h : continuation (b.toNat - 0xE0) 1 (if b.toNat = 0xE0 then 0xA0 else 0x80)
      (if b.toNat = 0xED then 0x9F else 0xBF) 2 rest = .ok (n, rest')) :
    b :: rest = encodeChar (Char.ofNat n) ++ rest' := by
  obtain ⟨b1, tail, rfl, hb1, hend⟩ := continuation_succ_eq_ok h
  obtain ⟨b2, tail, rfl, hb2, hend⟩ := continuation_succ_eq_ok hend
  obtain ⟨hn, rfl⟩ := Prod.mk.inj (Except.ok.inj hend)
  -- The bounds on the second byte keep out overlong forms and surrogates.
  have hbounds : (0x80 ≤ b1.toNat ∧ b1.toNat ≤ 0xBF) ∧
      (b.toNat = 0xE0 → 0xA0 ≤ b1.toNat) ∧ (b.toNat = 0xED → b1.toNat ≤ 0x9F) := by
    split at hb1 <;> split at hb1 <;> omega
  clear hb1
  rw [encodeChar, toNat_ofNat (by omega), if_neg (by omega), if_neg (by omega),
    if_pos (by omega), toUInt8_eq (b := b) (by omega), toUInt8_eq (b := b1) (by omega),
    toUInt8_eq (b := b2) (by omega)]
  rfl

theorem eq_encodeChar_four (hb : 0xF0 ≤ b.toNat ∧ b.toNat ≤ 0xF4)
    (h : continuation (b.toNat - 0xF0) 1 (if b.toNat = 0xF0 then 0x90 else 0x80)
      (if b.toNat = 0xF4 then 0x8F else 0xBF) 3 rest = .ok (n, rest')) :
    b :: rest = encodeChar (Char.ofNat n) ++ rest' := by
  obtain ⟨b1, tail, rfl, hb1, hend⟩ := continuation_succ_eq_ok h
  obtain ⟨b2, tail, rfl, hb2, hend⟩ := continuation_succ_eq_ok hend
  obtain ⟨b3, tail, rfl, hb3, hend⟩ := continuation_succ_eq_ok hend
  obtain ⟨hn, rfl⟩ := Prod.mk.inj (Except.ok.inj hend)
  -- Here they keep out overlong forms and what lies beyond the last code point.
  have hbounds : (0x80 ≤ b1.toNat ∧ b1.toNat ≤ 0xBF) ∧
      (b.toNat = 0xF0 → 0x90 ≤ b1.toNat) ∧ (b.toNat = 0xF4 → b1.toNat ≤ 0x8F) := by
    split at hb1 <;> split at hb1 <;> omega
  clear hb1
  rw [encodeChar, toNat_ofNat (by omega), if_neg (by omega), if_neg (by omega),
    if_neg (by omega), toUInt8_eq (b := b) (by omega), toUInt8_eq (b := b1) (by omega),
    toUInt8_eq (b := b2) (by omega), toUInt8_eq (b := b3) (by omega)]
  rfl

/-- What is taken off the front are the bytes of the character that it stands for. -/
theorem eq_encodeChar_append {c : Char} (h : decodeChar b rest = .ok (c, rest')) :
    b :: rest = encodeChar c ++ rest' := by
  rw [decodeChar] at h
  split at h
  · next hascii =>
    cases h
    rw [encodeChar, toNat_ofNat (by omega), if_pos hascii, toUInt8_eq rfl]
    rfl
  rw [lead?_eq] at h
  split at h
  · cases h
  · next l hl =>
    cases hsequence : continuation l.bits 1 l.least l.greatest l.following rest with
    | error e =>
      rw [hsequence] at h
      cases h
    | ok p =>
      rw [hsequence] at h
      cases h
      split at hl
      · next hb =>
        cases hl
        exact eq_encodeChar_two hb hsequence
      split at hl
      · next hb =>
        cases hl
        exact eq_encodeChar_three hb hsequence
      split at hl
      · next hb =>
        cases hl
        exact eq_encodeChar_four hb hsequence
      · cases hl

end Sequences

theorem eq_flatMap_of_decodeFrom {cs : List Char} :
    ∀ {position : Nat} {seen : List Char} {fuel : Nat} {bytes : List UInt8},
      bytes.length ≤ fuel → decodeFrom position seen fuel bytes = .ok cs →
      ∃ read, cs = seen.reverse ++ read ∧ bytes = read.flatMap encodeChar := by
  intro position seen fuel
  induction fuel generalizing position seen with
  | zero =>
    intro bytes hfuel h
    cases bytes with
    | nil =>
      cases h
      exact ⟨[], (List.append_nil _).symm, rfl⟩
    | cons b rest => exact absurd hfuel (Nat.not_succ_le_zero _)
  | succ fuel ih =>
    intro bytes hfuel h
    cases bytes with
    | nil =>
      cases h
      exact ⟨[], (List.append_nil _).symm, rfl⟩
    | cons b rest =>
      rw [decodeFrom] at h
      split at h
      · cases h
      · next c rest' hchar =>
        have hbytes := eq_encodeChar_append hchar
        obtain ⟨b', bs, hencode, _⟩ := decodeChar_encodeChar c []
        have hlength := congrArg List.length hbytes
        rw [hencode, List.cons_append, List.length_cons, List.length_cons, List.length_append]
          at hlength
        rw [List.length_cons] at hfuel
        obtain ⟨read, hcs, hrest⟩ := ih (by omega) h
        refine ⟨c :: read, ?_, ?_⟩
        · rw [hcs, List.reverse_cons, List.append_assoc]
          rfl
        · rw [hbytes, hrest, List.flatMap_cons]

/-- **Bytes are read as a text exactly if the text is written as these bytes.** -/
theorem decode?_eq_ok_iff (bytes : List UInt8) (s : String) :
    decode? bytes = .ok s ↔ encode s = bytes := by
  constructor
  · intro h
    unfold decode? at h
    cases hread : decodeFrom 0 [] bytes.length bytes with
    | error e =>
      rw [hread] at h
      cases h
    | ok cs =>
      rw [hread] at h
      cases h
      obtain ⟨read, hcs, hbytes⟩ := eq_flatMap_of_decodeFrom (Nat.le_refl _) hread
      rw [List.reverse_nil, List.nil_append] at hcs
      rw [encode, String.toList_ofList, hcs, ← hbytes]
  · rintro rfl
    exact decode?_encode s

end Spreadsheet.Text.Utf8

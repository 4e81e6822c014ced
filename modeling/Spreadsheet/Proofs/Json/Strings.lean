import Spreadsheet.Json.Printer
import Spreadsheet.Json.Reader

/-!
Written strings read back.

`Json.writeString` escapes what the reader would not take as it stands, by a short escape, by the
code of the character, or by a pair of surrogates.  `readString_writeString` says that reading
undoes all of this, for every string, with or without escapes beyond ASCII, whatever text follows.
-/

namespace Spreadsheet.Json

/-- A hexadecimal digit has the value that it was written for. -/
theorem hexValue?_digitChar : ∀ d < 16, hexValue? (Nat.digitChar d) = some d := by
  decide

/-- Four hexadecimal digits denote the number that they were written for. -/
theorem hexUnit?_digits {n : Nat} (h : n < 0x10000) :
    hexUnit? (Nat.digitChar (n / 4096 % 16)) (Nat.digitChar (n / 256 % 16))
      (Nat.digitChar (n / 16 % 16)) (Nat.digitChar (n % 16)) = some n := by
  rw [hexUnit?, hexValue?_digitChar _ (Nat.mod_lt _ (by omega)),
    hexValue?_digitChar _ (Nat.mod_lt _ (by omega)),
    hexValue?_digitChar _ (Nat.mod_lt _ (by omega)),
    hexValue?_digitChar _ (Nat.mod_lt _ (by omega))]
  simp only [Option.bind_eq_bind, Option.bind_some, Option.pure_def, Option.some_inj]
  omega

/-- The escape of a unit is taken off the front.  The reader looks at one more character, so some
text must follow. -/
theorem readString_unitEscape (opening : List Char) (p : Pending) {n : Nat} (h : n < 0x10000)
    {tail : List Char} (htail : tail ≠ []) :
    readString opening p (unitEscape n ++ tail) = readString opening (p.pushUnit n) tail := by
  obtain ⟨c, rest, rfl⟩ := List.exists_cons_of_ne_nil htail
  simp only [unitEscape, List.cons_append, List.nil_append]
  rw [readString]
  simp only [hexUnit?_digits h]

/-- No character is a surrogate. -/
theorem toNat_not_surrogate (c : Char) : c.toNat < 0xD800 ∨ 0xE000 ≤ c.toNat := by
  have h := c.valid
  have heq : c.val.toNat = c.toNat := rfl
  simp only [UInt32.isValidChar, Nat.isValidChar, heq] at h
  omega

theorem toNat_lt (c : Char) : c.toNat < 0x110000 := by
  have h := c.valid
  have heq : c.val.toNat = c.toNat := rfl
  simp only [UInt32.isValidChar, Nat.isValidChar, heq] at h
  omega

/-- The unit of a character below the surrogates or above them adds that character. -/
theorem pushUnit_toNat (p : Pending) {c : Char} (h : c.toNat < 0x10000) :
    p.pushUnit c.toNat = p.push c := by
  have hsurrogate := toNat_not_surrogate c
  have hhigh : ¬(0xD800 ≤ c.toNat ∧ c.toNat < 0xDC00) := by omega
  have hlow : ¬(0xDC00 ≤ c.toNat ∧ c.toNat < 0xE000) := by omega
  rw [Pending.pushUnit, if_neg hhigh]
  cases p.waiting <;> simp only [if_neg hlow, Char.ofNat_toNat]

/-- A high surrogate waits until the low one comes, and both together add one character. -/
theorem pushUnit_pushUnit (p : Pending) {high low : Nat} (hhigh : high < 0x400)
    (hlow : low < 0x400) :
    (p.pushUnit (0xD800 + high)).pushUnit (0xDC00 + low) =
      p.push (Char.ofNat (0x10000 + high * 0x400 + low)) := by
  have h1 : 0xD800 ≤ 0xD800 + high ∧ 0xD800 + high < 0xDC00 := by omega
  have h2 : ¬(0xD800 ≤ 0xDC00 + low ∧ 0xDC00 + low < 0xDC00) := by omega
  have h3 : 0xDC00 ≤ 0xDC00 + low ∧ 0xDC00 + low < 0xE000 := by omega
  rw [Pending.pushUnit, Pending.pushUnit, if_pos h1, if_neg h2]
  simp only [if_pos h3, Nat.add_sub_cancel_left]
  rfl

/-- A character by its code is taken off the front, be it one unit or a pair of surrogates. -/
theorem readString_codeEscape (opening : List Char) (p : Pending) (c : Char) {tail : List Char}
    (htail : tail ≠ []) :
    readString opening p (codeEscape c.toNat ++ tail) = readString opening (p.push c) tail := by
  have hlt := toNat_lt c
  rw [codeEscape]
  by_cases h : c.toNat < 0x10000
  · rw [if_pos h, readString_unitEscape opening p h htail, pushUnit_toNat p h]
  · obtain ⟨n, hn⟩ : ∃ n, c.toNat = 0x10000 + n := ⟨c.toNat - 0x10000, by omega⟩
    have hhigh : n / 0x400 < 0x400 := by omega
    have hlow : n % 0x400 < 0x400 := by omega
    have hcode : 0x10000 + n / 0x400 * 0x400 + n % 0x400 = c.toNat := by omega
    have htail' : unitEscape (0xDC00 + n % 0x400) ++ tail ≠ [] := by
      simp only [unitEscape, List.cons_append, ne_eq, reduceCtorEq, not_false_eq_true]
    rw [if_neg h, hn, Nat.add_sub_cancel_left, List.append_assoc,
      readString_unitEscape opening p (by omega) htail',
      readString_unitEscape opening _ (by omega) htail, pushUnit_pushUnit p hhigh hlow, hcode,
      Char.ofNat_toNat]

/-- A character without an escape is taken off the front as it is. -/
theorem readString_plain (opening : List Char) (p : Pending) {c : Char} (hquote : c ≠ '"')
    (hbackslash : c ≠ '\\') (hcontrol : ¬c.toNat < 0x20) (tail : List Char) :
    readString opening p (c :: tail) = readString opening (p.push c) tail := by
  rw [readString, if_neg hcontrol]
  · exact hquote
  -- the other patterns all begin with a backslash
  all_goals
    intros
    contradiction

/-- Every character is taken off the front as it was written. -/
theorem readString_writeChar (opening : List Char) (p : Pending) (asciiOnly : Bool) (c : Char)
    {tail : List Char} (htail : tail ≠ []) :
    readString opening p (writeChar asciiOnly c ++ tail) = readString opening (p.push c) tail := by
  unfold writeChar
  -- the seven short escapes, from the quotation mark to the backspace
  iterate 7
    split
    · subst_vars
      simp [readString, shortEscape?]
  split
  · exact readString_codeEscape opening p c htail
  split
  · exact readString_codeEscape opening p c htail
  · exact readString_plain opening p ‹_› ‹_› ‹_› tail

/-- A written text up to its closing mark reads back. -/
theorem readString_flatMap (opening : List Char) (asciiOnly : Bool) (rest : List Char) :
    ∀ (cs : List Char) (p : Pending),
      readString opening p (cs.flatMap (writeChar asciiOnly) ++ '"' :: rest) =
        .ok (String.ofList (p.settled.reverse ++ cs), rest) := by
  intro cs
  induction cs with
  | nil =>
    intro p
    rw [List.flatMap_nil, List.nil_append, readString, List.append_nil]
  | cons c cs ih =>
    intro p
    have htail : cs.flatMap (writeChar asciiOnly) ++ '"' :: rest ≠ [] := by simp
    rw [List.flatMap_cons, List.append_assoc, readString_writeChar opening p asciiOnly c htail,
      ih]
    simp [Pending.push, Pending.settled]

/-- **Written strings read back**, whatever follows them. -/
theorem readString_writeString (asciiOnly : Bool) (s : String) (opening rest : List Char) :
    readString opening {} (s.toList.flatMap (writeChar asciiOnly) ++ '"' :: rest) =
      .ok (s, rest) := by
  rw [readString_flatMap]
  simp [Pending.settled]

end Spreadsheet.Json

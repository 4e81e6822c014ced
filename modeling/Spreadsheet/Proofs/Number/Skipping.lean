import Spreadsheet.Proofs.Number.Reading

/-!
Texts that are read otherwise elsewhere.

`parseFloat` of JavaScript reads the same numerals in the same way, but what it skips in front of
them (`isScriptSpace`) is not quite what is blank here: the classes differ by six characters
(`isBlank_iff`).  That shows in a text only if a number stands behind one of the six (`Strays`), and
`ofText_agrees_iff` says that all other texts are read alike.
-/

namespace Spreadsheet.Number

open Numeral (read?)

variable {blank : Char → Bool} {q : WithTop ℚ}

/-! ### The characters that are skipped -/

/-- The white space and line ends that JavaScript skips in front of a number: the tabulators, the
form feed, the line feed and the carriage return, the separators of Unicode and the mark U+FEFF. -/
def isScriptSpace (c : Char) : Bool :=
  let n := c.toNat
  n == 0x09 || n == 0x0A || n == 0x0B || n == 0x0C || n == 0x0D || n == 0xFEFF
    || n == 0x20 || n == 0xA0 || n == 0x1680 || (0x2000 ≤ n && n ≤ 0x200A) || n == 0x202F
    || n == 0x205F || n == 0x3000 || n == 0x2028 || n == 0x2029

/-- One of the control characters that are blank but not skipped by JavaScript: the four information
separators and the next line. -/
def isControlBlank (c : Char) : Bool :=
  (0x1C ≤ c.toNat && c.toNat ≤ 0x1F) || c.toNat == 0x85

/-- The mark that JavaScript skips although it is not blank. -/
def isMark (c : Char) : Bool :=
  c.toNat == 0xFEFF

/-- The two classes of characters differ by six members. -/
theorem isBlank_iff (c : Char) :
    Text.isBlank c = true ↔
      isScriptSpace c = true ∧ isMark c = false ∨ isControlBlank c = true := by
  unfold Text.isBlank Text.isSpace Text.isSeparator isScriptSpace isMark isControlBlank
  simp only [Bool.or_eq_true, Bool.and_eq_true, decide_eq_true_eq, beq_iff_eq, beq_eq_false_iff_ne]
  omega

theorem isScriptSpace_iff (c : Char) :
    isScriptSpace c = true ↔
      Text.isBlank c = true ∧ isControlBlank c = false ∨ isMark c = true := by
  unfold Text.isBlank Text.isSpace Text.isSeparator isScriptSpace isMark isControlBlank
  simp only [Bool.or_eq_true, Bool.and_eq_true, decide_eq_true_eq, beq_iff_eq, Bool.or_eq_false_iff,
    Bool.and_eq_false_iff, decide_eq_false_iff_not, beq_eq_false_iff_ne]
  omega

/-- A numeral begins with a character from the plus sign to the capital I. -/
theorem head_of_isNumeral {numeral : List Char} {negative : Bool}
    (h : IsNumeral numeral negative q) :
    ∃ c cs', numeral = c :: cs' ∧ 0x2B ≤ c.toNat ∧ c.toNat ≤ 0x49 := by
  cases h with
  | signed hsign hmagnitude =>
    cases hsign with
    | plus => exact ⟨_, _, rfl, by decide, by decide⟩
    | minus => exact ⟨_, _, rfl, by decide, by decide⟩
    | absent =>
      obtain ⟨m, rest', hread, _⟩ := readMagnitude?_of_isMagnitude hmagnitude []
      rw [List.append_nil] at hread
      obtain ⟨c, cs', hcs, hc⟩ := head_of_readMagnitude? hread
      refine ⟨c, cs', hcs, ?_⟩
      rcases hc with hc | rfl | rfl
      · have hzero : '0'.toNat = 48 := rfl
        have hnine : '9'.toNat = 57 := rfl
        rw [Char.isDigit_iff_toNat] at hc
        omega
      · decide
      · decide

/-- Characters of the class do not count. -/
theorem numberBehind_append {blanks : List Char} (h : ∀ c ∈ blanks, blank c = true)
    (rest : List Char) : numberBehind blank (blanks ++ rest) = numberBehind blank rest := by
  rw [numberBehind, List.dropWhile_append_of_pos h]
  rfl

theorem numberBehind_skip {c : Char} (h : blank c = true) (rest : List Char) :
    numberBehind blank (c :: rest) = numberBehind blank rest := by
  rw [numberBehind, List.dropWhile_cons_of_pos h]
  rfl

/-- Behind anything else there is no number unless a numeral can begin with it. -/
theorem numberBehind_cons {c : Char} (hblank : blank c = false)
    (hc : c.toNat < 0x2B ∨ 0x49 < c.toNat) (rest : List Char) :
    numberBehind blank (c :: rest) = 0.0 := by
  have hnone : read? (c :: rest) = none := by
    rw [read?_eq_none_iff]
    rintro numeral negative q hnumeral ⟨more, hmore⟩
    obtain ⟨c', cs', rfl, hrange⟩ := head_of_isNumeral hnumeral
    obtain ⟨rfl, _⟩ := List.cons.inj hmore
    omega
  rw [numberBehind, List.dropWhile_cons_of_neg (by simp [hblank]), hnone]
  exact ofCode_zero

/-- The characters in front that are skipped in both ways end at one that is skipped in one of them
only, and the number behind it is not zero. -/
inductive Strays (cs : List Char) : Prop where
  | mark {shared rest : List Char} {c : Char} {x : Float} (hcs : cs = shared ++ c :: rest)
    (hshared : ∀ b ∈ shared, Text.isBlank b = true ∧ isScriptSpace b = true)
    (hc : isMark c = true) (hread : Reads isScriptSpace rest x) (hx : x ≠ 0.0) : Strays cs
  | control {shared rest : List Char} {c : Char} {x : Float} (hcs : cs = shared ++ c :: rest)
    (hshared : ∀ b ∈ shared, Text.isBlank b = true ∧ isScriptSpace b = true)
    (hc : isControlBlank c = true) (hread : Reads Text.isBlank rest x) (hx : x ≠ 0.0) : Strays cs

/-- A mark stops the one reading and not the other. -/
theorem numberBehind_mark {c : Char} (h : isMark c = true) (rest : List Char) :
    numberBehind Text.isBlank (c :: rest) = 0.0 ∧
      numberBehind isScriptSpace (c :: rest) = numberBehind isScriptSpace rest := by
  have hcode : c.toNat = 0xFEFF := by simpa [isMark] using h
  have hscript : isScriptSpace c = true := by simp [isScriptSpace, hcode]
  have hblank : Text.isBlank c = false := by
    simp [Text.isBlank, Text.isSpace, Text.isSeparator, hcode]
  exact ⟨numberBehind_cons hblank (by omega) rest, numberBehind_skip hscript rest⟩

theorem numberBehind_control {c : Char} (h : isControlBlank c = true) (rest : List Char) :
    numberBehind Text.isBlank (c :: rest) = numberBehind Text.isBlank rest ∧
      numberBehind isScriptSpace (c :: rest) = 0.0 := by
  have hcode := h
  simp only [isControlBlank, Bool.or_eq_true, Bool.and_eq_true, decide_eq_true_eq, beq_iff_eq]
    at hcode
  have hrange : c.toNat < 0x2B ∨ 0x49 < c.toNat := by omega
  have hmark : isMark c = false := by
    rw [isMark, beq_eq_false_iff_ne]
    omega
  have hscript : isScriptSpace c = false := by
    rw [← Bool.not_eq_true, isScriptSpace_iff, h, hmark]
    simp
  exact ⟨numberBehind_skip ((isBlank_iff c).mpr (.inr h)) rest,
    numberBehind_cons hscript hrange rest⟩

/-- What is read alike and what is not. -/
theorem numberBehind_eq_iff (cs : List Char) :
    numberBehind Text.isBlank cs = numberBehind isScriptSpace cs ↔ ¬Strays cs := by
  constructor
  · intro heq hstrays
    cases hstrays with
    | mark hcs hshared hc hread hx =>
      rw [hcs, numberBehind_append fun b hb => (hshared b hb).1,
        numberBehind_append fun b hb => (hshared b hb).2, (numberBehind_mark hc _).1,
        (numberBehind_mark hc _).2, ← (reads_iff _ _ _).mp hread] at heq
      exact hx heq.symm
    | control hcs hshared hc hread hx =>
      rw [hcs, numberBehind_append fun b hb => (hshared b hb).1,
        numberBehind_append fun b hb => (hshared b hb).2, (numberBehind_control hc _).1,
        (numberBehind_control hc _).2, ← (reads_iff _ _ _).mp hread] at heq
      exact hx heq
  · intro hno
    obtain ⟨shared, rest, hcs, hshared, hrest⟩ : ∃ shared rest, cs = shared ++ rest ∧
        (∀ b ∈ shared, Text.isBlank b = true ∧ isScriptSpace b = true) ∧
        ∀ c, rest.head? = some c → (Text.isBlank c && isScriptSpace c) = false := by
      have hskips : SkipsTo (fun c => Text.isBlank c && isScriptSpace c) cs (cs.dropWhile _) :=
        skipsTo_iff.mpr rfl
      obtain ⟨shared, hcs, hshared, hrest⟩ := hskips
      exact ⟨shared, _, hcs, fun b hb => (Bool.and_eq_true _ _).mp (hshared b hb), hrest⟩
    rw [hcs, numberBehind_append fun b hb => (hshared b hb).1,
      numberBehind_append fun b hb => (hshared b hb).2]
    cases rest with
    | nil => rfl
    | cons c rest =>
      by_cases hmark : isMark c = true
      · rw [(numberBehind_mark hmark rest).1, (numberBehind_mark hmark rest).2]
        by_contra hne
        exact hno (.mark hcs hshared hmark ((reads_iff _ _ _).mpr rfl) fun h => hne h.symm)
      · by_cases hcontrol : isControlBlank c = true
        · rw [(numberBehind_control hcontrol rest).1, (numberBehind_control hcontrol rest).2]
          by_contra hne
          exact hno (.control hcs hshared hcontrol ((reads_iff _ _ _).mpr rfl) hne)
        · -- a character that is not skipped in either way
          have hboth := hrest c rfl
          have hiff := isBlank_iff c
          simp only [Bool.not_eq_true] at hmark hcontrol
          simp only [hmark, hcontrol, Bool.false_eq_true, and_true, or_false] at hiff
          rw [Bool.eq_iff_iff.mpr hiff, Bool.and_self] at hboth
          have hblank : Text.isBlank c = false := by rw [Bool.eq_iff_iff.mpr hiff, hboth]
          simp [numberBehind, hblank, hboth]

/-- **Where a text is read otherwise.**  The numeral and its value are those of `parseFloat`, a text
without a numeral is read as zero, and what is skipped in front is the same but for six characters:
five control characters are skipped here and not there, and the mark U+FEFF there and not here.  So
a text is read alike unless a number other than zero stands behind one of the six, where that is the
first character that is not skipped by both. -/
theorem ofText_agrees_iff (text : String) :
    (Reads isScriptSpace text.toList (ofText text) ↔ ¬Strays text.toList) ∧
    (∀ c : Char, Text.isBlank c = true ↔
      isScriptSpace c = true ∧ isMark c = false ∨ isControlBlank c = true) ∧
    ∀ c : Char, isScriptSpace c = true ↔
      Text.isBlank c = true ∧ isControlBlank c = false ∨ isMark c = true := by
  refine ⟨?_, isBlank_iff, isScriptSpace_iff⟩
  rw [reads_iff, ofText_eq_numberBehind]
  exact numberBehind_eq_iff text.toList

/-- Some texts are not read as `parseFloat` reads them. -/
theorem ofText_not_script :
    ¬∀ text : String, Reads isScriptSpace text.toList (ofText text) := by
  intro h
  have hmark := (reads_iff _ _ _).mp (h "\uFEFF12")
  revert hmark
  decide +kernel

/-- A control character in front of a number. -/
example : ofText "\u001C12" = 12.0 ∧ Reads isScriptSpace "\u001C12".toList 0.0 :=
  ⟨by decide +kernel, (reads_iff _ _ _).mpr (by decide +kernel)⟩

end Spreadsheet.Number

import Spreadsheet.Formula.Evaluation
import Spreadsheet.Proofs.Number.Bits
import Spreadsheet.Proofs.Number.Notation

/-!
What a cell shows is read as the number that it was computed as.

The text of a finite double is a sign and its shortest decimal in the layout of cells.  It is read
as a whole, stands for the same rational number as the plain text of the absolute value does
(`denotes_display`), and rounds to the double (`ofText_display`): reading gives back every number
but the negative zero, which is shown without its sign.  `display_reads_back` has it for cells.
-/

namespace Spreadsheet.Number

open Numeral (IsDecimal read? readMagnitude? readSign)

/-- A positive number's digits do not begin with a zero. -/
theorem head_toDigits {n : Nat} (h : n ≠ 0) : (Nat.toDigits 10 n).head? ≠ some '0' := by
  induction n using Nat.strongRecOn with
  | ind n ih =>
    rcases Nat.lt_or_ge n 10 with hlt | hge
    · rw [Nat.toDigits_of_lt_base hlt, List.head?_cons, Ne, Option.some_inj, Nat.digitChar_eq_zero]
      exact h
    · have hsplit := Nat.toDigits_append_toDigits (b := 10) (by decide)
        (Nat.div_pos hge (by decide)) (Nat.mod_lt n (by decide))
      rw [Nat.div_add_mod] at hsplit
      rw [← hsplit, List.head?_append_of_ne_nil _ Nat.toDigits_ne_nil]
      exact ih (n / 10) (by omega) (by omega)

/-- The sign in front of a text. -/
def signText (negative : Bool) : List Char :=
  if negative then ['-'] else []

/-- The number with the sign. -/
def signed (negative : Bool) (q : ℚ) : ℚ :=
  if negative then -q else q

/-- The whole text is read as a numeral, and that stands for the rational number. -/
def Denotes (text : String) (q : ℚ) : Prop :=
  ∃ negative d, read? text.toList = some (⟨negative, .decimal d⟩, []) ∧ signed negative d.value = q

/-- What begins like a magnitude has neither a sign nor a blank in front. -/
theorem head_of_readMagnitude? {cs rest : List Char} {m : Magnitude}
    (h : readMagnitude? cs = some (m, rest)) :
    ∃ c cs', cs = c :: cs' ∧ (c.isDigit = true ∨ c = '.' ∨ c = 'I') := by
  unfold readMagnitude? at h
  split at h
  · exact ⟨_, _, rfl, Or.inr (Or.inr rfl)⟩
  · split at h
    · cases h
    · next hfixed =>
      obtain ⟨c, cs', hcs, hc⟩ := Numeral.head_of_readFixed? hfixed
      exact ⟨c, cs', hcs, hc.imp_right Or.inl⟩

theorem readSign_of_readMagnitude? {cs rest : List Char} {m : Magnitude}
    (h : readMagnitude? cs = some (m, rest)) : readSign cs = (false, cs) := by
  obtain ⟨c, cs, rfl, hc⟩ := head_of_readMagnitude? h
  unfold readSign
  split
  · next heq =>
    obtain ⟨rfl, _⟩ := List.cons.inj heq
    rcases hc with hc | hc | hc <;> cases hc
  · next heq =>
    obtain ⟨rfl, _⟩ := List.cons.inj heq
    rcases hc with hc | hc | hc <;> cases hc
  · rfl

theorem read?_signed {cs rest : List Char} {m : Magnitude}
    (h : readMagnitude? cs = some (m, rest)) (negative : Bool) :
    read? (signText negative ++ cs) = some (⟨negative, m⟩, rest) := by
  cases negative
  · rw [signText, if_neg (by decide), List.nil_append, read?, readSign_of_readMagnitude? h]
    simp only [h]
    rfl
  · show (readMagnitude? cs).map _ = _
    rw [h]
    rfl

theorem isBlank_eq_false {c : Char} (h : c.isDigit = true ∨ c = '.' ∨ c = 'I') :
    Text.isBlank c = false := by
  rcases h with h | rfl | rfl
  · have hrange : 48 ≤ c.toNat ∧ c.toNat ≤ 57 := by
      rw [Char.isDigit, Bool.and_eq_true, decide_eq_true_iff, decide_eq_true_iff] at h
      exact h
    have hsep : Text.isSeparator c = false := by
      rw [Text.isSeparator, Bool.and_eq_false_iff]
      exact Or.inr (decide_eq_false (by omega))
    rw [Text.isBlank, hsep, Bool.or_false]
    unfold Text.isSpace
    simp only [Bool.or_eq_false_iff, Bool.and_eq_false_iff, decide_eq_false_iff_not,
      beq_eq_false_iff_ne]
    omega
  · rfl
  · rfl

theorem dropWhile_isBlank_signed {cs rest : List Char} {m : Magnitude}
    (h : readMagnitude? cs = some (m, rest)) (negative : Bool) :
    (signText negative ++ cs).dropWhile Text.isBlank = signText negative ++ cs := by
  cases negative
  · obtain ⟨c, cs, rfl, hc⟩ := head_of_readMagnitude? h
    show (c :: cs).dropWhile Text.isBlank = c :: cs
    rw [List.dropWhile_cons_of_neg (by rw [isBlank_eq_false hc]; decide)]
  · rfl

/-- A text that is a signed magnitude is read as the double that it rounds to, without the sign of
a zero. -/
theorem ofText_signed {text : String} {cs : List Char} {m : Magnitude} (negative : Bool)
    (htext : text.toList = signText negative ++ cs) (h : readMagnitude? cs = some (m, [])) :
    ofText text = if (Numeral.mk negative m).code = 0 then ofCode false 0
      else (Numeral.mk negative m).toFloat := by
  unfold ofText
  rw [htext, dropWhile_isBlank_signed h, read?_signed h]

/-! ### What is written of a double -/

section Finite

variable {x : Float} {negative : Bool} {code : Nat}

theorem toList_render_finite (s : Style) (h : Parts.ofFloat x = .finite negative code)
    (h0 : code ≠ 0) :
    (s.render x).toList = signText negative
      ++ s.layout.write (Nat.toDigits 10 (shortest code).digits) (shortest code).exponent := by
  unfold Style.render signText
  rw [h]
  dsimp only
  rw [if_neg h0, String.toList_append, String.toList_ofList]
  cases negative <;> rfl

theorem toList_render_infinite (s : Style) (h : Parts.ofFloat x = .infinite negative) :
    (s.render x).toList = signText negative ++ s.infinity.toList := by
  unfold Style.render signText
  rw [h]
  dsimp only
  rw [String.toList_append]
  cases negative <;> rfl

/-- The shortest decimal of a positive double is written as one. -/
theorem isDecimal_shortest (l : Layout) (hmark : l.wholeMark = [] ∨ l.wholeMark = ['.', '0'])
    (h0 : code ≠ 0) (h : code ≤ infinityCode) :
    IsDecimal (l.write (Nat.toDigits 10 (shortest code).digits) (shortest code).exponent)
      (shortest code).value := by
  have hdecimal := Layout.isDecimal_write Nat.toDigits_ne_nil
    (fun c hc => Nat.isDigit_of_mem_toDigits (by decide) (by decide) hc) l hmark
    (head_toDigits (digits_shortest_ne_zero h0 h)) (shortest code).exponent
  rwa [digitsValue_toDigits] at hdecimal

/-- Both zeros are shown alike. -/
theorem render_zero (s : Style) (h : Parts.ofFloat x = .finite negative 0) :
    s.render x = if negative then s.negativeZero else s.zero := by
  unfold Style.render
  rw [h]
  rfl

theorem display_zero (h : Parts.ofFloat x = .finite negative 0) : display x = "0" := by
  rw [display, render_zero _ h]
  cases negative <;> rfl

/-- What is shown for a number other than zero is read as that number. -/
theorem ofText_display_finite (h : Parts.ofFloat x = .finite negative code) (h0 : code ≠ 0) :
    ofText (display x) = x := by
  have hle := Nat.le_of_lt (lt_infinityCode_of_finite h)
  obtain ⟨d, hread, hvalue⟩ := isDecimal_shortest cellStyle.layout (Or.inl rfl) h0 hle
  have hcode : (Numeral.mk negative (.decimal d)).code = code :=
    (Decimal.nearestCode_congr hvalue).trans (nearestCode_shortest hle)
  rw [display, ofText_signed negative (toList_render_finite cellStyle h h0) hread,
    Numeral.toFloat, hcode, if_neg h0, ofCode_of_finite h]

theorem ofText_display_infinite (h : Parts.ofFloat x = .infinite negative) :
    ofText (display x) = x := by
  rw [display, ofText_signed negative (toList_render_infinite cellStyle h) (m := .infinity) rfl]
  show (if infinityCode = 0 then _ else ofCode negative infinityCode) = x
  rw [if_neg (by decide), ofCode_of_infinite h]

end Finite

/-- The number that is read for a double is that double, but a zero has no sign. -/
theorem ofText_display {x : Float} (h : x.isNaN = false) :
    ofText (display x) = if x = -0.0 then 0.0 else x := by
  have hminus : Parts.ofFloat (-0.0) = .finite true 0 := by decide +kernel
  by_cases hx : x = -0.0
  · rw [if_pos hx, hx, display_zero hminus]
    decide +kernel
  · rw [if_neg hx]
    cases hparts : Parts.ofFloat x with
    | notANumber => exact absurd hparts (ofFloat_ne_notANumber h)
    | infinite negative => exact ofText_display_infinite hparts
    | finite negative code =>
      by_cases h0 : code = 0
      · subst h0
        have hxcode := ofCode_of_finite hparts
        cases negative
        · rw [display_zero hparts, ← hxcode]
          decide +kernel
        · exact absurd (hxcode.symm.trans (ofCode_of_finite hminus)) hx
      · exact ofText_display_finite hparts h0

theorem denotes_signed {text : String} {cs : List Char} {q : ℚ} (negative : Bool)
    (htext : text.toList = signText negative ++ cs) (h : IsDecimal cs q) :
    Denotes text (signed negative q) := by
  obtain ⟨d, hread, hvalue⟩ := h
  refine ⟨negative, d, ?_, by rw [hvalue]⟩
  rw [htext, read?_signed hread]

section Absolute

variable {x : Float} {negative : Bool} {code : Nat}

/-- The absolute value has the same code. -/
theorem ofFloat_abs (h : Parts.ofFloat x = .finite negative code) :
    Parts.ofFloat x.abs = .finite false code := by
  have hlt := lt_infinityCode_of_finite h
  rw [← ofCode_of_finite h, abs_ofCode negative (Nat.le_of_lt hlt),
    ofFloat_ofCode false (Nat.le_of_lt hlt), if_pos hlt]

/-- The plain text of the absolute value denotes the shortest decimal. -/
theorem denotes_plain (h : Parts.ofFloat x = .finite negative code) (h0 : code ≠ 0) :
    Denotes (plainStyle.render x.abs) (shortest code).value :=
  denotes_signed false (toList_render_finite plainStyle (ofFloat_abs h) h0)
    (isDecimal_shortest _ (Or.inr rfl) h0 (Nat.le_of_lt (lt_infinityCode_of_finite h)))

theorem decide_lt_zero (h : Parts.ofFloat x = .finite negative code) (h0 : code ≠ 0) :
    decide (x < 0.0) = negative := by
  cases negative
  · exact decide_eq_false fun hneg => Bool.false_ne_true ((lt_zero_iff h).mp hneg).1
  · exact decide_eq_true ((lt_zero_iff h).mpr ⟨rfl, h0⟩)

end Absolute

/-- A cell shows the number that the plain text of the absolute value denotes, with the sign. -/
theorem denotes_display {x : Float} (h : x.isFinite = true) :
    ∃ q, Denotes (plainStyle.render x.abs) q ∧
      Denotes (display x) (signed (decide (x < 0.0)) q) := by
  obtain ⟨negative, code, hparts⟩ := exists_ofFloat_eq_finite h
  have hlt := lt_infinityCode_of_finite hparts
  by_cases h0 : code = 0
  · subst h0
    have hpos : decide (x < 0.0) = false :=
      decide_eq_false fun hneg => ((lt_zero_iff hparts).mp hneg).2 rfl
    refine ⟨0, ⟨false, ⟨0, -1⟩, ?_, ?_⟩, ⟨false, ⟨0, 0⟩, ?_, ?_⟩⟩
    · rw [render_zero _ (ofFloat_abs hparts)]
      decide
    · simp [signed, Decimal.value]
    · rw [display_zero hparts]
      decide
    · simp [hpos, signed, Decimal.value]
  · refine ⟨(shortest code).value, denotes_plain hparts h0, ?_⟩
    rw [decide_lt_zero hparts h0]
    exact denotes_signed negative (toList_render_finite cellStyle hparts h0)
      (isDecimal_shortest _ (Or.inl rfl) h0 (Nat.le_of_lt hlt))

end Spreadsheet.Number

namespace Spreadsheet

open Number (Denotes signText signed digitsValue cellStyle plainStyle display ofText)
open Formula (Outcome numberAt)

/-- **Displayed numbers are read back exactly.** -/
theorem display_reads_back :
    (∀ (negative : Bool) (digits : List Char) (exponent : Int), digits ≠ [] →
        (∀ c ∈ digits, c.isDigit = true) → digits.head? ≠ some '0' →
        Denotes (String.ofList (signText negative ++ cellStyle.layout.write digits exponent))
          (signed negative (digitsValue digits * (10 : ℚ) ^ exponent))) ∧
    (∀ x : Float, x.isFinite = true → ∃ q, Denotes (plainStyle.render x.abs) q ∧
        Denotes (display x) (signed (decide (x < 0.0)) q)) ∧
    (∀ x : Float, x.isNaN = false → ofText (display x) = if x = -0.0 then 0.0 else x) ∧
    ∀ (g : Grid) (ref : CellRef) (cell : Cell) (x : Float), x.isNaN = false →
      g.get ref.row ref.col = .ok cell → cell.value = (Outcome.number x).display →
      numberAt g ref = .ok (if x = -0.0 then 0.0 else x) := by
  refine ⟨?_, fun x hx => Number.denotes_display hx, fun x hx => Number.ofText_display hx, ?_⟩
  · intro negative digits exponent hne hdigits hhead
    exact Number.denotes_signed negative String.toList_ofList
      (Number.Layout.isDecimal_write hne hdigits _ (Or.inl rfl) hhead exponent)
  · intro g ref cell x hx hcell hvalue
    rw [numberAt, hcell]
    dsimp only
    rw [hvalue]
    exact congrArg _ (Number.ofText_display hx)

/-- A number with an exponent, its sign and a cell that shows it. -/
theorem display_reads_back_scientific :
    Denotes "-1.2e+22" (signed true (digitsValue ['1', '2', '0'] * (10 : ℚ) ^ (20 : Int))) ∧
      (∃ q, Denotes (plainStyle.render (-1.2e22 : Float).abs) q ∧
        Denotes (display (-1.2e22)) (signed (decide ((-1.2e22 : Float) < 0.0)) q)) ∧
      ofText (display (-1.2e22)) = -1.2e22 ∧
      numberAt ⟨1, 1, [[⟨"-1.2e+22", "=SUM(A1:B2)"⟩]], by decide, by decide, by decide, by decide⟩
        ⟨0, 0⟩ = .ok (-1.2e22) := by
  have hne : (-1.2e22 : Float) ≠ -0.0 := by decide +kernel
  have hfinite : (-1.2e22 : Float).isFinite = true := by decide +kernel
  have hnan : (-1.2e22 : Float).isNaN = false := by decide +kernel
  have hall : ∀ c ∈ ['1', '2', '0'], c.isDigit = true := List.all_eq_true.mp rfl
  obtain ⟨hdigits, hplain, htext, hcell⟩ := display_reads_back
  refine ⟨?_, hplain _ hfinite, ?_, ?_⟩
  · exact hdigits true ['1', '2', '0'] 20 (by decide) hall (by decide)
  · rw [htext _ hnan, if_neg hne]
  · rw [hcell _ ⟨0, 0⟩ ⟨"-1.2e+22", "=SUM(A1:B2)"⟩ _ hnan rfl (by decide +kernel), if_neg hne]

end Spreadsheet

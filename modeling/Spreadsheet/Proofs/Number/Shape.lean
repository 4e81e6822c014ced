import Spreadsheet.Proofs.Number.Grammar

/-!
The shape of displayed numbers.

How a number is written is decided by counting: where the point stands, and how many digits there
are.  Both say something about the number itself.  The point tells between which powers of ten it
lies (`value_bounds`), so the window of positions that are written out is a range of numbers
(`mem_window_iff`).  Digits that do not end in zero are no more than the number needs, so there is a
fraction exactly if the number is not an integer (`isInteger_iff`).  `Layout.isCanonical_write` puts
this together for all digits and exponents, and `display_canonical` says it of all doubles.
-/

namespace Spreadsheet.Number

/-! ### Canonical texts -/

/-- One digit or more, and the first of them is not zero. -/
structure IsUnpadded (digits : List Char) : Prop where
  all : AllDigits digits
  head : ∃ c cs, digits = c :: cs ∧ c ≠ '0'

/-- One digit or more, and the last of them is not zero. -/
structure IsTrimmed (digits : List Char) : Prop where
  all : AllDigits digits
  last : ∃ cs c, digits = cs ++ [c] ∧ c ≠ '0'

/-- A fraction with its point, or nothing. -/
inductive IsFraction : List Char → Prop where
  | absent : IsFraction []
  | point {digits : List Char} (h : IsTrimmed digits) : IsFraction ('.' :: digits)

/-- The digits in front of a point: a single zero or digits that do not begin with one. -/
inductive IsWholePart : List Char → Prop where
  | zero : IsWholePart ['0']
  | unpadded {digits : List Char} (h : IsUnpadded digits) : IsWholePart digits

/-- A number that is written out. -/
inductive IsPositional : List Char → Prop where
  | digits {whole fraction : List Char} (hwhole : IsWholePart whole)
    (hfraction : IsFraction fraction) : IsPositional (whole ++ fraction)

/-- A number with an exponent: one digit other than zero in front of the point, and a sign in front
of the exponent. -/
inductive IsScientific : List Char → Prop where
  | digit {c sign : Char} {fraction exponent : List Char} (hc : c.isDigit = true) (hne : c ≠ '0')
    (hfraction : IsFraction fraction) (hsign : sign = '+' ∨ sign = '-')
    (hexponent : IsUnpadded exponent) :
    IsScientific (c :: (fraction ++ 'e' :: sign :: exponent))

/-- The canonical form of a positive number: it is written out if it is less than `10 ^ 21` and no
less than a millionth, with a fraction if it is no integer, and has an exponent otherwise. -/
structure IsCanonical (q : ℚ) (cs : List Char) : Prop where
  exponent_iff : 'e' ∈ cs ↔ 10 ^ 21 ≤ q ∨ q < 1 / 10 ^ 6
  point_iff : 'e' ∉ cs → ('.' ∈ cs ↔ ¬∃ n : ℤ, q = n)
  positional : 'e' ∉ cs → IsPositional cs
  scientific : 'e' ∈ cs → IsScientific cs

/-! ### What digits say about the number -/

variable {digits : List Char}

theorem digitsValue_singleton (c : Char) : digitsValue [c] = c.toNat - '0'.toNat := by
  rw [digitsValue, Nat.ofDigitChars_cons, Nat.ofDigitChars_nil, Nat.mul_zero, Nat.zero_add]

theorem digitsValue_cons (c : Char) (cs : List Char) :
    digitsValue (c :: cs) = (c.toNat - '0'.toNat) * 10 ^ cs.length + digitsValue cs := by
  rw [← List.singleton_append, digitsValue_append, digitsValue_singleton]

/-- A digit counts for at most nine, and for nothing only if it is zero. -/
theorem toNat_of_isDigit {c : Char} (h : c.isDigit = true) :
    c.toNat - '0'.toNat ≤ 9 ∧ (c ≠ '0' → 1 ≤ c.toNat - '0'.toNat) := by
  rw [Char.isDigit_iff_toNat] at h
  have hzero : '0'.toNat = 48 := rfl
  have hnine : '9'.toNat = 57 := rfl
  refine ⟨by omega, fun hne => ?_⟩
  have hcode : c.toNat ≠ '0'.toNat := fun heq => hne (Char.toNat_inj.mp heq)
  omega

/-- A run of digits denotes less than one with one digit more. -/
theorem digitsValue_lt (h : AllDigits digits) :
    digitsValue digits < 10 ^ digits.length := by
  induction digits with
  | nil => decide
  | cons c cs ih =>
    have hlt := ih fun b hb => h b (List.mem_cons_of_mem c hb)
    have hc := (toNat_of_isDigit (h c List.mem_cons_self)).1
    rw [digitsValue_cons, List.length_cons, Nat.pow_succ]
    have hmul := Nat.mul_le_mul_right (10 ^ cs.length) hc
    omega

theorem IsUnpadded.le_digitsValue (h : IsUnpadded digits) :
    10 ^ digits.length ≤ 10 * digitsValue digits := by
  obtain ⟨hdigits, c, cs, rfl, hne⟩ := h
  have hc := (toNat_of_isDigit (hdigits c List.mem_cons_self)).2 hne
  rw [digitsValue_cons, List.length_cons, Nat.pow_succ]
  have hmul := Nat.mul_le_mul_right (10 ^ cs.length) hc
  omega

/-- The position of the point tells between which powers of ten a number lies. -/
theorem value_bounds (h : IsUnpadded digits) (point : ℤ) :
    (10 : ℚ) ^ (point - 1) ≤ digitsValue digits * (10 : ℚ) ^ (point - digits.length) ∧
      digitsValue digits * (10 : ℚ) ^ (point - digits.length) < (10 : ℚ) ^ point := by
  have hpos : (0 : ℚ) < 10 ^ (point - digits.length) := by positivity
  have hpoint : (10 : ℚ) ^ point = 10 ^ digits.length * 10 ^ (point - digits.length) := by
    rw [← zpow_natCast, ← zpow_add₀ (by decide)]
    congr 1
    omega
  constructor
  · have hle : (10 : ℚ) ^ digits.length ≤ 10 * digitsValue digits := by
      exact_mod_cast h.le_digitsValue
    rw [zpow_sub_one₀ (by decide), hpoint]
    have hmul := mul_le_mul_of_nonneg_right hle hpos.le
    linarith
  · have hlt : (digitsValue digits : ℚ) < 10 ^ digits.length := by
      exact_mod_cast digitsValue_lt h.all
    rw [hpoint]
    exact mul_lt_mul_of_pos_right hlt hpos

/-- The positions of the point that are written out are those of a range of numbers. -/
theorem mem_window_iff (h : IsUnpadded digits) (point : ℤ) :
    (-5 ≤ point ∧ point ≤ 21) ↔
      ¬(10 ^ 21 ≤ digitsValue digits * (10 : ℚ) ^ (point - digits.length) ∨
        digitsValue digits * (10 : ℚ) ^ (point - digits.length) < 1 / 10 ^ 6) := by
  obtain ⟨hlower, hupper⟩ := value_bounds h point
  have hten : (1 : ℚ) ≤ 10 := by norm_num
  have hlarge : (10 : ℚ) ^ (21 : ℤ) = 10 ^ 21 := by norm_num
  have hsmall : (10 : ℚ) ^ (-6 : ℤ) = 1 / 10 ^ 6 := by norm_num
  rw [not_or, not_le, not_lt, ← hlarge, ← hsmall]
  constructor
  · rintro ⟨hleast, hgreatest⟩
    exact ⟨hupper.trans_le (zpow_le_zpow_right₀ hten hgreatest),
      (zpow_le_zpow_right₀ hten (by omega)).trans hlower⟩
  · rintro ⟨hlt, hle⟩
    constructor
    · by_contra hleast
      have hpow := zpow_le_zpow_right₀ hten (show point ≤ -6 by omega)
      exact absurd (hle.trans_lt (hupper.trans_le hpow)) (lt_irrefl _)
    · by_contra hgreatest
      have hpow := zpow_le_zpow_right₀ hten (show 21 ≤ point - 1 by omega)
      exact absurd ((hpow.trans hlower).trans_lt hlt) (lt_irrefl _)

theorem IsTrimmed.digitsValue_mod (h : IsTrimmed digits) : digitsValue digits % 10 ≠ 0 := by
  obtain ⟨hdigits, cs, c, rfl, hne⟩ := h
  obtain ⟨hle, hpos⟩ := toNat_of_isDigit (hdigits c (List.mem_append_right cs List.mem_cons_self))
  have hge := hpos hne
  rw [digitsValue_append, digitsValue_singleton, List.length_singleton]
  omega

/-- Digits that do not end in zero denote an integer only if they all stand in front of the
point. -/
theorem isInteger_iff (h : IsTrimmed digits) (e : ℤ) :
    (∃ n : ℤ, (digitsValue digits : ℚ) * 10 ^ e = n) ↔ 0 ≤ e := by
  constructor
  · rintro ⟨n, hn⟩
    by_contra hneg
    obtain ⟨k, hk⟩ := Int.eq_ofNat_of_zero_le (show 0 ≤ -e - 1 by omega)
    have he : e = -((k + 1 : Nat) : ℤ) := by omega
    have hvalue : (digitsValue digits : ℚ) = n * 10 ^ (k + 1) := by
      rw [← hn, he, zpow_neg, zpow_natCast]
      field_simp
    -- The last digit would be zero.
    have hint : (digitsValue digits : ℤ) = n * 10 ^ (k + 1) := by exact_mod_cast hvalue
    have hmod := h.digitsValue_mod
    rw [pow_succ, ← mul_assoc] at hint
    omega
  · intro hpos
    obtain ⟨k, rfl⟩ := Int.eq_ofNat_of_zero_le hpos
    refine ⟨digitsValue digits * 10 ^ k, ?_⟩
    rw [zpow_natCast]
    push_cast
    rfl

/-! ### Parts of digits -/

section Parts

variable {more : List Char}

theorem AllDigits.append (h : AllDigits digits) (h' : AllDigits more) :
    AllDigits (digits ++ more) :=
  List.forall_mem_append.mpr ⟨h, h'⟩

theorem AllDigits.not_mem (h : AllDigits digits) {c : Char} (hc : c.isDigit = false) :
    c ∉ digits := by
  intro hmem
  rw [h c hmem] at hc
  cases hc

/-- Only the front matters. -/
theorem IsUnpadded.append (h : IsUnpadded digits) (hmore : AllDigits more) :
    IsUnpadded (digits ++ more) := by
  obtain ⟨c, cs, hcs, hne⟩ := h.head
  exact ⟨h.all.append hmore, c, cs ++ more, by rw [hcs, List.cons_append], hne⟩

theorem IsUnpadded.of_append (h : IsUnpadded (digits ++ more)) (hne : digits ≠ []) :
    IsUnpadded digits := by
  obtain ⟨hall, c, cs, hcs, hc⟩ := h
  obtain ⟨b, bs, rfl⟩ := List.exists_cons_of_ne_nil hne
  obtain ⟨rfl, _⟩ := List.cons.inj hcs
  exact ⟨fun d hd => hall d (List.mem_append_left more hd), b, bs, rfl, hc⟩

theorem IsUnpadded.take (h : IsUnpadded digits) {n : Nat} (hn : 0 < n) :
    IsUnpadded (digits.take n) := by
  rw [← List.take_append_drop n digits] at h
  refine h.of_append ?_
  obtain ⟨c, cs, hcs, _⟩ := h.head
  rw [List.take_append_drop] at hcs
  rw [hcs, Ne, List.take_eq_nil_iff]
  simp [Nat.pos_iff_ne_zero.mp hn]

/-- Only the end matters. -/
theorem IsTrimmed.append (hmore : AllDigits more) (h : IsTrimmed digits) :
    IsTrimmed (more ++ digits) := by
  obtain ⟨cs, c, hcs, hne⟩ := h.last
  exact ⟨hmore.append h.all, more ++ cs, c, by rw [hcs, List.append_assoc], hne⟩

theorem IsTrimmed.drop (h : IsTrimmed digits) {n : Nat} (hn : n < digits.length) :
    IsTrimmed (digits.drop n) := by
  obtain ⟨hall, cs, c, rfl, hne⟩ := h
  rw [List.length_append, List.length_singleton] at hn
  refine ⟨fun d hd => hall d (List.mem_of_mem_drop hd), cs.drop n, c, ?_, hne⟩
  exact List.drop_append_of_le_length (by omega)

end Parts

/-- The digits of a positive number have no zero in front. -/
theorem isUnpadded_toDigits {n : Nat} (h : n ≠ 0) : IsUnpadded (Nat.toDigits 10 n) := by
  refine ⟨fun c hc => Nat.isDigit_of_mem_toDigits (by decide) (by decide) hc, ?_⟩
  obtain ⟨c, cs, hcs⟩ := List.exists_cons_of_ne_nil (Nat.toDigits_ne_nil (n := n) (b := 10))
  refine ⟨c, cs, hcs, ?_⟩
  rintro rfl
  exact head_toDigits h (by rw [hcs, List.head?_cons])

/-- Leaving out the zeros at the end leaves digits that do not end in zero. -/
theorem isTrimmed_stripZeros (h : IsUnpadded digits) : IsTrimmed (stripZeros digits) := by
  refine ⟨fun c hc => h.all c (mem_of_mem_stripZeros hc), ?_⟩
  obtain ⟨first, cs, rfl, hfirst⟩ := h.head
  have hne := stripZeros_ne_nil (List.mem_cons_self (a := first) (l := cs)) hfirst
  rw [stripZeros, Ne, List.reverse_eq_nil_iff] at hne
  obtain ⟨c, rest, hrest⟩ := List.exists_cons_of_ne_nil hne
  refine ⟨rest.reverse, c, ?_, ?_⟩
  · rw [stripZeros, hrest, List.reverse_cons]
  · have hhead := List.head?_dropWhile_not (· == '0') (first :: cs).reverse
    rw [hrest] at hhead
    simpa using hhead

theorem isUnpadded_stripZeros (h : IsUnpadded digits) : IsUnpadded (stripZeros digits) := by
  obtain ⟨k, hk⟩ := exists_stripZeros_append digits
  obtain ⟨cs, c, hcs, _⟩ := (isTrimmed_stripZeros h).last
  rw [hk] at h
  exact h.of_append (by simp [hcs])

/-! ### Points and exponents in a text -/

theorem IsFraction.not_mem {fraction : List Char} (h : IsFraction fraction) : 'e' ∉ fraction := by
  cases h with
  | absent => exact List.not_mem_nil
  | point h =>
    rw [List.mem_cons, not_or]
    exact ⟨by decide, h.all.not_mem (by decide)⟩

theorem IsWholePart.allDigits {whole : List Char} (h : IsWholePart whole) : AllDigits whole := by
  cases h with
  | zero => exact isDigit_zeros 1
  | unpadded h => exact h.all

/-- The letter in front of an exponent stands nowhere else. -/
theorem IsPositional.not_mem {cs : List Char} (h : IsPositional cs) : 'e' ∉ cs := by
  cases h with
  | digits hwhole hfraction =>
    rw [List.mem_append, not_or]
    exact ⟨hwhole.allDigits.not_mem (by decide), hfraction.not_mem⟩

theorem IsScientific.mem {cs : List Char} (h : IsScientific cs) : 'e' ∈ cs := by
  cases h with
  | digit => simp

namespace Layout

variable {kept : List Char}

/-- A number that is written out has a point exactly if it has digits behind it. -/
theorem isPositional_positional (l : Layout) (hmark : l.wholeMark = []) (hhead : IsUnpadded kept)
    (hlast : IsTrimmed kept) (point : ℤ) :
    IsPositional (l.positional kept point) ∧
      ('.' ∈ l.positional kept point ↔ point < kept.length) := by
  unfold positional
  split
  · -- all digits stand in front of the point
    next hle =>
    have hwhole := hhead.append (isDigit_zeros (point - kept.length).toNat)
    have hpoint := hwhole.all.not_mem (c := '.') (by decide)
    have htext := IsPositional.digits (.unpadded hwhole) .absent
    rw [List.append_nil] at htext
    rw [hmark, List.append_nil]
    refine ⟨htext, fun hmem => absurd hmem hpoint, fun hlt => absurd hlt ?_⟩
    omega
  · next hlt =>
    have hshort := Int.not_le.mp hlt
    split
    · -- the point stands among the digits
      next hpos =>
      refine ⟨.digits (.unpadded (hhead.take ?_)) (.point (hlast.drop ?_)), fun _ => hshort,
        fun _ => List.mem_append_right _ List.mem_cons_self⟩
      · omega
      · omega
    · -- the point stands in front of the digits
      refine ⟨IsPositional.digits .zero (.point (hlast.append (isDigit_zeros _))), fun _ => hshort,
        fun _ => List.mem_cons_of_mem _ List.mem_cons_self⟩

/-- A number with an exponent has one digit in front of the point. -/
theorem isScientific_scientific (l : Layout) (hwidth : l.exponentWidth ≤ 1)
    (hhead : IsUnpadded kept) (hlast : IsTrimmed kept) {point : ℤ} (hpoint : point ≠ 1) :
    IsScientific (l.scientific kept point) := by
  have hexponent : IsUnpadded (Nat.toDigits 10 (point - 1).natAbs) :=
    isUnpadded_toDigits (by omega)
  have hpad : l.exponentWidth - (Nat.toDigits 10 (point - 1).natAbs).length = 0 := by
    have hlength := List.length_pos_iff.mpr
      (Nat.toDigits_ne_nil (n := (point - 1).natAbs) (b := 10))
    omega
  obtain ⟨hall, c, cs, rfl, hne⟩ := hhead
  have hfraction : IsFraction (if cs.isEmpty then [] else '.' :: cs) := by
    cases cs with
    | nil => exact .absent
    | cons b bs => exact .point (hlast.drop (n := 1) (by simp))
  have hsign : (if point - 1 < 0 then '-' else '+') = '+' ∨
      (if point - 1 < 0 then '-' else '+') = '-' := by
    split
    · exact .inr rfl
    · exact .inl rfl
  unfold scientific
  dsimp only
  rw [hpad, List.replicate_zero, List.nil_append]
  exact .digit (hall c List.mem_cons_self) hne hfraction hsign hexponent

/-- The layout of cells writes every decimal in its canonical form. -/
theorem isCanonical_write (h : IsUnpadded digits) (exponent : ℤ) :
    IsCanonical (digitsValue digits * (10 : ℚ) ^ exponent)
      (cellStyle.layout.write digits exponent) := by
  have hhead := isUnpadded_stripZeros h
  have hlast := isTrimmed_stripZeros h
  have hwindow := mem_window_iff hhead (digits.length + exponent)
  have hinteger := isInteger_iff hlast (digits.length + exponent - (stripZeros digits).length)
  rw [value_stripZeros]
  unfold write
  dsimp only
  split
  · next hin =>
    obtain ⟨htext, hpoint⟩ := isPositional_positional cellStyle.layout rfl hhead hlast
      (digits.length + exponent)
    refine ⟨⟨fun he => absurd he htext.not_mem, fun hout => absurd hout (hwindow.mp hin)⟩,
      fun _ => ?_, fun _ => htext, fun he => absurd he htext.not_mem⟩
    rw [hpoint, hinteger]
    omega
  · next hout =>
    have hpoint : (digits.length : ℤ) + exponent ≠ 1 := by
      intro hone
      rw [hone] at hout
      exact hout (by decide)
    have htext := isScientific_scientific cellStyle.layout (Nat.le_refl 1) hhead hlast hpoint
    have hpositive := not_not.mp (mt hwindow.mpr hout)
    exact ⟨⟨fun _ => hpositive, fun _ => htext.mem⟩, fun he => absurd htext.mem he,
      fun he => absurd htext.mem he, fun _ => htext⟩

end Layout

/-! ### Displayed doubles -/

/-- A text denotes one number at most. -/
theorem Denotes.unique {text : String} {q q' : ℚ} (h : Denotes text q) (h' : Denotes text q') :
    q = q' := by
  obtain ⟨negative, d, hread, rfl⟩ := h
  obtain ⟨negative', d', hread', rfl⟩ := h'
  rw [hread] at hread'
  cases hread'
  rfl

section Finite

variable {x y : Float} {negative : Bool} {code : Nat}

theorem isNaN_eq_false_of_isFinite (h : x.isFinite = true) : x.isNaN = false := by
  change x.toModel.unpack.isFinite = true at h
  show x.toModel.unpack.isNaN = false
  generalize x.toModel.unpack = u at h ⊢
  cases u with
  | notANumber => cases h
  | _ => rfl

/-- A double that is no zero has a code other than zero. -/
theorem code_ne_zero (h : Parts.ofFloat x = .finite negative code) (hpos : x ≠ 0.0)
    (hneg : x ≠ -0.0) : code ≠ 0 := by
  rintro rfl
  have hx := ofCode_of_finite h
  cases negative
  · exact hpos (hx.symm.trans (by decide +kernel))
  · exact hneg (hx.symm.trans (by decide +kernel))

/-- Behind its sign, a number is shown by the canonical text of its shortest decimal. -/
theorem exists_isCanonical (h : Parts.ofFloat x = .finite negative code) (h0 : code ≠ 0) :
    ∃ body, (display x).toList = signText negative ++ body ∧
      body.head? ≠ some '-' ∧ IsCanonical (shortest code).value body := by
  have hle := Nat.le_of_lt (lt_infinityCode_of_finite h)
  have hdigits := isUnpadded_toDigits (digits_shortest_ne_zero h0 hle)
  refine ⟨_, toList_render_finite cellStyle h h0, ?_, ?_⟩
  · obtain ⟨d, hread, _⟩ := isDecimal_shortest cellStyle.layout (Or.inl rfl) h0 hle
    obtain ⟨c, cs, hcs, hc⟩ := head_of_readMagnitude? hread
    rw [hcs, List.head?_cons, Ne, Option.some_inj]
    rintro rfl
    rcases hc with hc | hc | hc
    · cases hc
    · cases hc
    · cases hc
  · have hcanonical := Layout.isCanonical_write hdigits (shortest code).exponent
    rwa [digitsValue_toDigits] at hcanonical

/-- Two numbers that are shown alike differ at most in the sign of a zero. -/
theorem abs_eq_of_display_eq (hx : x.isFinite = true) (hy : y.isFinite = true)
    (h : display x = display y) : x.abs = y.abs := by
  have habs : ∀ z : Float, z.isFinite = true → (ofText (display z)).abs = z.abs := by
    intro z hz
    rw [ofText_display (isNaN_eq_false_of_isFinite hz)]
    split
    · next hzero =>
      rw [hzero]
      decide +kernel
    · rfl
  rw [← habs x hx, h, habs y hy]

end Finite

end Spreadsheet.Number

namespace Spreadsheet

open Number (Denotes IsCanonical signText plainStyle display)

/-- **Cells show numbers in canonical form.**  The shortest decimal of a finite number other than
zero is what the plain text of its absolute value denotes.  The cell shows an exponent exactly if
this decimal is at least `10 ^ 21` or less than a millionth, and otherwise a point exactly if it is
no integer.  No zero is shown that could be left out, and a minus sign stands in front exactly if
the number is below zero.  Numbers with different shortest decimals are never shown alike. -/
theorem display_canonical :
    (∀ x : Float, x.isFinite = true → x ≠ 0.0 → x ≠ -0.0 →
      ∃ (q : ℚ) (body : List Char), Denotes (plainStyle.render x.abs) q ∧ 0 < q ∧
        (display x).toList = signText (decide (x < 0.0)) ++ body ∧
        ((display x).toList.head? = some '-' ↔ x < 0.0) ∧ IsCanonical q body) ∧
    ∀ x y : Float, x.isFinite = true → y.isFinite = true → ∀ q q' : ℚ,
      Denotes (plainStyle.render x.abs) q → Denotes (plainStyle.render y.abs) q' → q ≠ q' →
      display x ≠ display y := by
  constructor
  · intro x hfinite hpos hneg
    obtain ⟨negative, code, hparts⟩ := Number.exists_ofFloat_eq_finite hfinite
    have h0 := Number.code_ne_zero hparts hpos hneg
    obtain ⟨body, htext, hhead, hcanonical⟩ := Number.exists_isCanonical hparts h0
    have hsign := Number.decide_lt_zero hparts h0
    refine ⟨_, body, Number.denotes_plain hparts h0, ?_, by rw [hsign, htext], ?_, hcanonical⟩
    · have hdigits := Number.digits_shortest_ne_zero h0
        (Nat.le_of_lt (Number.lt_infinityCode_of_finite hparts))
      have hcast : (0 : ℚ) < (Number.shortest code).digits := by
        exact_mod_cast Nat.pos_of_ne_zero hdigits
      rw [Number.Decimal.value]
      positivity
    · rw [htext, ← decide_eq_true_iff (p := x < 0.0), hsign]
      cases negative
      · simpa [signText] using hhead
      · simp [signText]
  · intro x y hx hy q q' hq hq' hne hsame
    rw [Number.abs_eq_of_display_eq hx hy hsame] at hq
    exact hne (hq.unique hq')

/-- A small number that is shown with an exponent and a large one that is written out. -/
theorem display_canonical_edges :
    (∃ (q : ℚ) (body : List Char), Denotes (plainStyle.render (-1.5e-7 : Float).abs) q ∧ 0 < q ∧
      (display (-1.5e-7)).toList = signText (decide ((-1.5e-7 : Float) < 0.0)) ++ body ∧
      ((display (-1.5e-7)).toList.head? = some '-' ↔ (-1.5e-7 : Float) < 0.0) ∧
      IsCanonical q body) ∧
    display (-1.5e-7) = "-1.5e-7" ∧ display 1.5e20 = "150000000000000000000" ∧
    display (-1.5e-7) ≠ display 1.5e20 := by
  have hfinite : (-1.5e-7 : Float).isFinite = true := by decide +kernel
  have hfinite' : (1.5e20 : Float).isFinite = true := by decide +kernel
  have hsmall : Denotes (plainStyle.render (-1.5e-7 : Float).abs) (15 * 10 ^ (-8 : ℤ)) := by
    refine ⟨false, ⟨15, -8⟩, by decide +kernel, ?_⟩
    simp [Number.signed, Number.Decimal.value]
  have hlarge : Denotes (plainStyle.render (1.5e20 : Float).abs) (15 * 10 ^ (19 : ℤ)) := by
    refine ⟨false, ⟨15, 19⟩, by decide +kernel, ?_⟩
    simp [Number.signed, Number.Decimal.value]
  obtain ⟨hshape, hdiffer⟩ := display_canonical
  refine ⟨hshape _ hfinite (by decide +kernel) (by decide +kernel), by decide +kernel,
    by decide +kernel, hdiffer _ _ hfinite hfinite' _ _ hsmall hlarge ?_⟩
  norm_num

end Spreadsheet

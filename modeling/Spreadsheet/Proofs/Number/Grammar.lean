import Spreadsheet.Proofs.Number.Display

/-!
The grammar of numerals.

`IsNumeral` says which texts are numerals and what each of them stands for: a sign, or none, and
then either the word for infinity or digits with an optional point and an optional exponent.  The
reader goes through a text once and never goes back, so it could stop short of a longer numeral.  It
does not: each stage takes what belongs to it, whatever follows (`readFixed?_of_isFixed`,
`readExponent?_of_isExponent`, `readMagnitude?_of_isMagnitude`), and nothing else
(`isFixed_of_readFixed?` and its companions).  So what is read is the longest numeral that the text
begins with (`isLongest_of_read?`), and nothing is read only if it begins with none
(`read?_eq_none_iff`).
-/

namespace Spreadsheet.Number

open Numeral (readSign readFixed? readExponent? readMagnitude? read?)

/-- There is nothing but digits. -/
def AllDigits (cs : List Char) : Prop :=
  ∀ c ∈ cs, c.isDigit = true

/-- A sign, or none; the answer is whether it is a minus. -/
inductive IsSign : List Char → Bool → Prop where
  | absent : IsSign [] false
  | plus : IsSign ['+'] false
  | minus : IsSign ['-'] true

/-- Digits with an optional point among them or at one end, and the number that they denote. -/
inductive IsFixed : List Char → ℚ → Prop where
  | whole {digits : List Char} (hne : digits ≠ []) (hdigits : AllDigits digits) :
    IsFixed digits (digitsValue digits)
  | point {whole fraction : List Char} (hne : whole ≠ []) (hwhole : AllDigits whole)
    (hfraction : AllDigits fraction) :
    IsFixed (whole ++ '.' :: fraction)
      (digitsValue whole + digitsValue fraction / (10 : ℚ) ^ fraction.length)
  | fraction {digits : List Char} (hne : digits ≠ []) (hdigits : AllDigits digits) :
    IsFixed ('.' :: digits) (digitsValue digits / (10 : ℚ) ^ digits.length)

/-- An exponent, or none, and the power of ten that it gives. -/
inductive IsExponent : List Char → Int → Prop where
  | absent : IsExponent [] 0
  | present {letter : Char} {sign digits : List Char} {negative : Bool}
    (hletter : letter = 'e' ∨ letter = 'E') (hsign : IsSign sign negative) (hne : digits ≠ [])
    (hdigits : AllDigits digits) :
    IsExponent (letter :: (sign ++ digits))
      (if negative then -(digitsValue digits : Int) else digitsValue digits)

/-- The word for infinity, or a decimal, and what it stands for. -/
inductive IsMagnitude : List Char → WithTop ℚ → Prop where
  | infinity : IsMagnitude ['I', 'n', 'f', 'i', 'n', 'i', 't', 'y'] ⊤
  | decimal {fixed exponent : List Char} {q : ℚ} {e : Int} (hfixed : IsFixed fixed q)
    (hexponent : IsExponent exponent e) :
    IsMagnitude (fixed ++ exponent) ((q * (10 : ℚ) ^ e : ℚ) : WithTop ℚ)

/-- A numeral, with its sign and what it stands for apart from that. -/
inductive IsNumeral : List Char → Bool → WithTop ℚ → Prop where
  | signed {sign magnitude : List Char} {negative : Bool} {q : WithTop ℚ}
    (hsign : IsSign sign negative) (hmagnitude : IsMagnitude magnitude q) :
    IsNumeral (sign ++ magnitude) negative q

/-- What a magnitude stands for. -/
def Magnitude.value : Magnitude → WithTop ℚ
  | .infinity => ⊤
  | .decimal d => (d.value : WithTop ℚ)

/-! ### Digits with a point -/

theorem digitsValue_append (digits more : List Char) :
    digitsValue (digits ++ more) = digitsValue digits * 10 ^ more.length + digitsValue more := by
  rw [digitsValue, Nat.ofDigitChars_append, Nat.ofDigitChars_eq_ofDigitChars_zero, Nat.mul_comm]
  rfl

/-- The point among digits makes a sum of two parts. -/
theorem value_digits (whole fraction : List Char) :
    Decimal.value ⟨digitsValue (whole ++ fraction), -fraction.length⟩ =
      digitsValue whole + digitsValue fraction / (10 : ℚ) ^ fraction.length := by
  rw [Decimal.value, digitsValue_append, zpow_neg, zpow_natCast, ← div_eq_mul_inv]
  push_cast
  rw [add_div, mul_div_assoc, div_self (pow_ne_zero _ (by norm_num)), mul_one]

theorem allDigits_takeWhile (cs : List Char) : AllDigits (cs.takeWhile Char.isDigit) :=
  fun c hc => List.all_eq_true.mp List.all_takeWhile c hc

variable {cs rest fixed exponent magnitude : List Char} {d : Decimal} {q : ℚ} {e : Int}

/-- Digits behind a point are taken with all digits that follow. -/
theorem readFixed?_point {whole fraction : List Char} (hwhole : AllDigits whole)
    (hfraction : AllDigits fraction) (hne : whole ≠ [] ∨ fraction ≠ []) (rest : List Char) :
    readFixed? (whole ++ '.' :: fraction ++ rest) =
      some (⟨digitsValue (whole ++ (fraction ++ rest.takeWhile Char.isDigit)),
        -(fraction ++ rest.takeWhile Char.isDigit).length⟩, rest.dropWhile Char.isDigit) := by
  have hpoint : ∀ c, ('.' :: (fraction ++ rest)).head? = some c → c.isDigit = false := by
    rintro c ⟨⟩
    rfl
  have hempty : (whole.isEmpty && (fraction ++ rest.takeWhile Char.isDigit).isEmpty) = false := by
    rw [Bool.and_eq_false_iff, List.isEmpty_eq_false_iff, List.isEmpty_eq_false_iff]
    exact hne.imp_right fun h => List.append_ne_nil_of_left_ne_nil h _
  rw [List.append_assoc, List.cons_append, readFixed?, Numeral.takeWhile_digits _ hwhole hpoint,
    Numeral.dropWhile_digits _ hwhole hpoint]
  simp only [List.takeWhile_append_of_pos hfraction, List.dropWhile_append_of_pos hfraction, hempty,
    Bool.false_eq_true, if_false]

/-- Where digits with an optional point begin, they are taken, and nothing is left that belongs to
them.  If what follows cannot go on with them, just these are taken. -/
theorem readFixed?_of_isFixed (h : IsFixed fixed q) (rest : List Char) :
    ∃ d rest', readFixed? (fixed ++ rest) = some (d, rest') ∧ rest' <:+ rest ∧
      ((∀ c, rest.head? = some c → c.isDigit = false ∧ c ≠ '.') → rest' = rest ∧ d.value = q) := by
  have hstop : (∀ c, rest.head? = some c → c.isDigit = false ∧ c ≠ '.') →
      rest.takeWhile Char.isDigit = [] ∧ rest.dropWhile Char.isDigit = rest := by
    intro hrest
    cases rest with
    | nil => exact ⟨rfl, rfl⟩
    | cons c rest => simp [(hrest c rfl).1]
  cases h with
  | whole hne hdigits =>
    have hempty : (fixed ++ rest.takeWhile Char.isDigit).isEmpty = false :=
      List.isEmpty_eq_false_iff.mpr (List.append_ne_nil_of_left_ne_nil hne _)
    rw [readFixed?, List.takeWhile_append_of_pos hdigits, List.dropWhile_append_of_pos hdigits]
    split
    · -- a point follows the digits that follow
      next more hmore =>
      have hsuffix : more <:+ rest := by
        refine (List.suffix_cons '.' more).trans ?_
        rw [← hmore]
        exact List.dropWhile_suffix _
      simp only [hempty, Bool.false_and, Bool.false_eq_true, if_false]
      refine ⟨_, _, rfl, (List.dropWhile_suffix _).trans hsuffix, fun hrest => ?_⟩
      rw [(hstop hrest).2] at hmore
      exact absurd rfl (hrest '.' (by rw [hmore]; rfl)).2
    · simp only [hempty, Bool.false_eq_true, if_false]
      refine ⟨_, _, rfl, List.dropWhile_suffix _, fun hrest => ?_⟩
      obtain ⟨htake, hdrop⟩ := hstop hrest
      rw [htake, hdrop, List.append_nil]
      exact ⟨rfl, by simp [Decimal.value]⟩
  | point hne hwhole hfraction =>
    refine ⟨_, _, readFixed?_point hwhole hfraction (.inl hne) rest, List.dropWhile_suffix _, ?_⟩
    intro hrest
    obtain ⟨htake, hdrop⟩ := hstop hrest
    rw [htake, hdrop, List.append_nil]
    exact ⟨rfl, value_digits _ _⟩
  | @fraction digits hne hdigits =>
    have hnil : AllDigits [] := fun c hc => absurd hc List.not_mem_nil
    have hread := readFixed?_point hnil hdigits (.inr hne) rest
    refine ⟨_, _, hread, List.dropWhile_suffix _, fun hrest => ?_⟩
    obtain ⟨htake, hdrop⟩ := hstop hrest
    rw [htake, hdrop, List.append_nil, value_digits]
    exact ⟨rfl, by simp [digitsValue]⟩

/-- What is taken is digits with an optional point, and nothing is lost. -/
theorem isFixed_of_readFixed? (h : readFixed? cs = some (d, rest)) :
    ∃ fixed, cs = fixed ++ rest ∧ IsFixed fixed d.value := by
  have hsplit := List.takeWhile_append_dropWhile (p := Char.isDigit) (l := cs)
  have hwhole := allDigits_takeWhile cs
  rw [readFixed?] at h
  generalize cs.takeWhile Char.isDigit = whole at *
  split at h
  · next more hmore =>
    rw [hmore] at hsplit
    have hsplit' := List.takeWhile_append_dropWhile (p := Char.isDigit) (l := more)
    have hfraction := allDigits_takeWhile more
    simp only at h
    generalize more.takeWhile Char.isDigit = fraction at *
    split at h
    · cases h
    · next hne =>
      rw [Option.some_inj, Prod.mk.injEq] at h
      obtain ⟨rfl, rfl⟩ := h
      refine ⟨whole ++ '.' :: fraction, ?_, ?_⟩
      · rw [← hsplit, List.append_assoc, List.cons_append, hsplit']
      · rw [value_digits]
        by_cases hnil : whole = []
        · subst hnil
          have hfne : fraction ≠ [] := by
            rintro rfl
            exact hne rfl
          have hfixed := IsFixed.fraction hfne hfraction
          simpa [digitsValue] using hfixed
        · exact .point hnil hwhole hfraction
  · next hpoint =>
    split at h
    · cases h
    · next hne =>
      rw [Option.some_inj, Prod.mk.injEq] at h
      obtain ⟨rfl, rfl⟩ := h
      refine ⟨whole, hsplit.symm, ?_⟩
      have hfixed := IsFixed.whole (fun hnil => hne (by rw [hnil]; rfl)) hwhole
      simpa [Decimal.value] using hfixed

/-! ### Exponents and signs -/

/-- A sign is taken in front of a text that does not begin with another one. -/
theorem readSign_of_isSign {sign : List Char} {negative : Bool} (h : IsSign sign negative)
    (hrest : ∀ c, rest.head? = some c → c ≠ '+' ∧ c ≠ '-') :
    readSign (sign ++ rest) = (negative, rest) := by
  cases h with
  | absent =>
    rw [List.nil_append]
    unfold readSign
    split
    · exact absurd rfl (hrest '-' rfl).2
    · exact absurd rfl (hrest '+' rfl).1
    · rfl
  | plus => rfl
  | minus => rfl

/-- What is taken is a sign, or nothing. -/
theorem isSign_of_readSign (cs : List Char) :
    ∃ sign, cs = sign ++ (readSign cs).2 ∧ IsSign sign (readSign cs).1 := by
  unfold readSign
  split
  · exact ⟨['-'], rfl, .minus⟩
  · exact ⟨['+'], rfl, .plus⟩
  · exact ⟨[], rfl, .absent⟩

theorem ne_sign_of_isDigit {c : Char} (h : c.isDigit = true) : c ≠ '+' ∧ c ≠ '-' := by
  constructor
  · rintro rfl
    cases h
  · rintro rfl
    cases h

/-- Where an exponent begins, it is taken, and nothing is left that belongs to it. -/
theorem readExponent?_of_isExponent (h : IsExponent exponent e) (hne : exponent ≠ [])
    (rest : List Char) :
    ∃ e' rest', readExponent? (exponent ++ rest) = some (e', rest') ∧ rest' <:+ rest ∧
      (rest = [] → e' = e) := by
  cases h with
  | absent => exact absurd rfl hne
  | @present letter sign digits negative hletter hsign hdne hdigits =>
    have hsigned : readSign (sign ++ (digits ++ rest)) = (negative, digits ++ rest) := by
      refine readSign_of_isSign hsign fun c hc => ?_
      rw [List.head?_append_of_ne_nil _ hdne] at hc
      exact ne_sign_of_isDigit (hdigits c (List.mem_of_mem_head? hc))
    have hempty : (digits ++ rest.takeWhile Char.isDigit).isEmpty = false :=
      List.isEmpty_eq_false_iff.mpr (List.append_ne_nil_of_left_ne_nil hdne _)
    rw [List.cons_append, List.append_assoc, readExponent?, if_pos hletter, hsigned]
    simp only [List.takeWhile_append_of_pos hdigits, List.dropWhile_append_of_pos hdigits, hempty,
      Bool.false_eq_true, if_false]
    refine ⟨_, _, rfl, List.dropWhile_suffix _, ?_⟩
    rintro rfl
    rw [List.takeWhile_nil, List.append_nil]

/-- What is taken is an exponent, and nothing is lost. -/
theorem isExponent_of_readExponent? (h : readExponent? cs = some (e, rest)) :
    ∃ exponent, cs = exponent ++ rest ∧ IsExponent exponent e := by
  cases cs with
  | nil => cases h
  | cons letter cs =>
    obtain ⟨sign, hsign, hform⟩ := isSign_of_readSign cs
    rw [readExponent?] at h
    split at h
    · next hletter =>
      generalize readSign cs = signed at *
      have hsplit := List.takeWhile_append_dropWhile (p := Char.isDigit) (l := signed.2)
      have hdigits := allDigits_takeWhile signed.2
      simp only at h
      split at h
      · cases h
      · next hne =>
        rw [Option.some_inj, Prod.mk.injEq] at h
        obtain ⟨rfl, rfl⟩ := h
        refine ⟨letter :: (sign ++ signed.2.takeWhile Char.isDigit), ?_,
          .present hletter hform ?_ hdigits⟩
        · rw [List.cons_append, List.append_assoc, hsplit, ← hsign]
        · exact fun hnil => hne (by rw [hnil]; rfl)
    · cases h

/-- An exponent is taken, or there is none. -/
theorem isExponent_of_getD (h : (readExponent? cs).getD (0, cs) = (e, rest)) :
    ∃ exponent, cs = exponent ++ rest ∧ IsExponent exponent e := by
  cases hread : readExponent? cs with
  | none =>
    rw [hread, Option.getD_none, Prod.mk.injEq] at h
    obtain ⟨rfl, rfl⟩ := h
    exact ⟨[], rfl, .absent⟩
  | some taken =>
    rw [hread, Option.getD_some] at h
    rw [h] at hread
    exact isExponent_of_readExponent? hread

/-! ### Magnitudes -/

theorem head_of_isExponent (h : IsExponent exponent e) :
    ∀ c, exponent.head? = some c → c.isDigit = false ∧ c ≠ '.' := by
  intro c hc
  cases h with
  | absent => cases hc
  | present hletter =>
    rw [List.head?_cons, Option.some_inj] at hc
    subst hc
    rcases hletter with rfl | rfl
    · exact ⟨rfl, by decide⟩
    · exact ⟨rfl, by decide⟩

/-- A decimal is taken with all that belongs to it. -/
theorem readMagnitude?_of_isMagnitude {q : WithTop ℚ} (h : IsMagnitude magnitude q)
    (rest : List Char) :
    ∃ m rest', readMagnitude? (magnitude ++ rest) = some (m, rest') ∧ rest' <:+ rest ∧
      (rest = [] → m.value = q) := by
  cases h with
  | infinity => exact ⟨.infinity, rest, rfl, List.suffix_rfl, fun _ => rfl⟩
  | @decimal fixed exponent q e hfixed hexponent =>
    rw [List.append_assoc]
    by_cases hne : exponent = []
    · -- there is no exponent, but one may follow
      subst hne
      cases hexponent
      obtain ⟨d, rest', hread, hsuffix, hexact⟩ := readFixed?_of_isFixed hfixed rest
      obtain ⟨e', rest'', htaken⟩ : ∃ e' rest'',
          (readExponent? rest').getD (0, rest') = (e', rest'') := ⟨_, _, rfl⟩
      obtain ⟨exponent, hsplit, _⟩ := isExponent_of_getD htaken
      rw [List.nil_append]
      refine ⟨_, _, Numeral.readMagnitude?_of_readFixed? hread htaken,
        (hsplit ▸ List.suffix_append exponent rest'').trans hsuffix, ?_⟩
      rintro rfl
      obtain ⟨rfl, hvalue⟩ := hexact fun c hc => by cases hc
      cases htaken
      simp only [Magnitude.value, Int.add_zero, zpow_zero, mul_one]
      exact congrArg _ hvalue
    · -- the exponent stops the digits
      obtain ⟨d, rest', hread, _, hexact⟩ := readFixed?_of_isFixed hfixed (exponent ++ rest)
      obtain ⟨e', rest'', htaken, hsuffix, hvalue⟩ := readExponent?_of_isExponent hexponent hne rest
      obtain ⟨rfl, hfixedValue⟩ := hexact fun c hc => by
        rw [List.head?_append_of_ne_nil _ hne] at hc
        exact head_of_isExponent hexponent c hc
      refine ⟨_, _, Numeral.readMagnitude?_of_readFixed? hread (by rw [htaken]; rfl), hsuffix, ?_⟩
      intro hrest
      rw [hvalue hrest, ← hfixedValue]
      simp only [Magnitude.value, Decimal.value]
      rw [zpow_add₀ (by norm_num), mul_assoc]

theorem isMagnitude_of_readMagnitude? {m : Magnitude} (h : readMagnitude? cs = some (m, rest)) :
    ∃ magnitude, cs = magnitude ++ rest ∧ IsMagnitude magnitude m.value := by
  unfold readMagnitude? at h
  split at h
  · rw [Option.some_inj, Prod.mk.injEq] at h
    obtain ⟨rfl, rfl⟩ := h
    exact ⟨_, rfl, .infinity⟩
  · split at h
    · cases h
    · next d rest' hread =>
      obtain ⟨fixed, rfl, hfixed⟩ := isFixed_of_readFixed? hread
      obtain ⟨e, rest'', htaken⟩ : ∃ e rest'',
          (readExponent? rest').getD (0, rest') = (e, rest'') := ⟨_, _, rfl⟩
      obtain ⟨exponent, rfl, hexponent⟩ := isExponent_of_getD htaken
      simp only [htaken] at h
      rw [Option.some_inj, Prod.mk.injEq] at h
      obtain ⟨rfl, rfl⟩ := h
      refine ⟨fixed ++ exponent, (List.append_assoc ..).symm, ?_⟩
      have hmagnitude := IsMagnitude.decimal hfixed hexponent
      simp only [Magnitude.value, Decimal.value] at *
      rwa [zpow_add₀ (by norm_num), ← mul_assoc]

/-! ### Numerals -/

variable {numeral numeral' : List Char} {negative negative' : Bool} {q q' : WithTop ℚ}

/-- Where a numeral begins, one is taken, and nothing is left that belongs to it. -/
theorem read?_of_isNumeral (h : IsNumeral numeral negative q) (rest : List Char) :
    ∃ n rest', read? (numeral ++ rest) = some (n, rest') ∧ rest' <:+ rest ∧
      (rest = [] → n.negative = negative ∧ n.magnitude.value = q) := by
  cases h with
  | @signed sign magnitude _ _ hsign hmagnitude =>
    obtain ⟨m, rest', hread, hsuffix, hvalue⟩ := readMagnitude?_of_isMagnitude hmagnitude rest
    have hsigned : readSign (sign ++ (magnitude ++ rest)) = (negative, magnitude ++ rest) := by
      cases hsign with
      | absent => exact readSign_of_readMagnitude? hread
      | plus => rfl
      | minus => rfl
    refine ⟨⟨negative, m⟩, rest', ?_, hsuffix, fun hrest => ⟨rfl, hvalue hrest⟩⟩
    rw [List.append_assoc, read?, hsigned]
    simp only [hread, Option.map_some]

/-- What is taken is a numeral, and nothing is lost. -/
theorem isNumeral_of_read? {n : Numeral} (h : read? cs = some (n, rest)) :
    ∃ numeral, cs = numeral ++ rest ∧ IsNumeral numeral n.negative n.magnitude.value := by
  obtain ⟨sign, hsplit, hsign⟩ := isSign_of_readSign cs
  rw [read?] at h
  obtain ⟨⟨m, rest'⟩, hread, heq⟩ := Option.map_eq_some_iff.mp h
  obtain ⟨magnitude, hrest, hmagnitude⟩ := isMagnitude_of_readMagnitude? hread
  rw [Prod.mk.injEq] at heq
  obtain ⟨rfl, rfl⟩ := heq
  refine ⟨sign ++ magnitude, ?_, .signed hsign hmagnitude⟩
  rw [List.append_assoc, ← hrest]
  exact hsplit

/-- A numeral has one meaning. -/
theorem IsNumeral.unique (h : IsNumeral numeral negative q) (h' : IsNumeral numeral negative' q') :
    negative = negative' ∧ q = q' := by
  obtain ⟨n, _, hread, _, hmeaning⟩ := read?_of_isNumeral h []
  obtain ⟨n', _, hread', _, hmeaning'⟩ := read?_of_isNumeral h' []
  rw [hread, Option.some_inj, Prod.mk.injEq] at hread'
  obtain ⟨rfl, _⟩ := hread'
  obtain ⟨rfl, rfl⟩ := hmeaning rfl
  exact hmeaning' rfl

/-- The text begins with the numeral, and with no longer one. -/
structure IsLongest (cs numeral : List Char) (negative : Bool) (q : WithTop ℚ) : Prop where
  form : IsNumeral numeral negative q
  begins : numeral <+: cs
  longest : ∀ other negative' q', IsNumeral other negative' q' → other <+: cs →
    other.length ≤ numeral.length

/-- A text begins with one longest numeral at most. -/
theorem IsLongest.unique (h : IsLongest cs numeral negative q)
    (h' : IsLongest cs numeral' negative' q') :
    numeral = numeral' ∧ negative = negative' ∧ q = q' := by
  have hlength : numeral.length = numeral'.length :=
    Nat.le_antisymm (h'.longest _ _ _ h.form h.begins) (h.longest _ _ _ h'.form h'.begins)
  have heq : numeral = numeral' :=
    (List.prefix_of_prefix_length_le h.begins h'.begins (Nat.le_of_eq hlength)).eq_of_length hlength
  subst heq
  exact ⟨rfl, h.form.unique h'.form⟩

/-- What is read is the longest numeral that the text begins with. -/
theorem isLongest_of_read? {n : Numeral} (h : read? cs = some (n, rest)) :
    ∃ numeral, IsLongest cs numeral n.negative n.magnitude.value := by
  obtain ⟨numeral, hsplit, hform⟩ := isNumeral_of_read? h
  refine ⟨numeral, hform, ⟨rest, hsplit.symm⟩, ?_⟩
  rintro other negative' q' hother ⟨more, hmore⟩
  -- What stands behind the other numeral has what is left at its end.
  obtain ⟨n', rest', hread, hsuffix, _⟩ := read?_of_isNumeral hother more
  rw [hmore, h, Option.some_inj, Prod.mk.injEq] at hread
  have hle := hsuffix.length_le
  rw [← hread.2] at hle
  have hlength := congrArg List.length (hmore.trans hsplit)
  rw [List.length_append, List.length_append] at hlength
  omega

/-- Nothing is read exactly if the text begins with no numeral. -/
theorem read?_eq_none_iff :
    read? cs = none ↔ ∀ numeral negative q, IsNumeral numeral negative q → ¬numeral <+: cs := by
  constructor
  · rintro hnone numeral negative q hform ⟨rest, rfl⟩
    obtain ⟨n, rest', hread, _⟩ := read?_of_isNumeral hform rest
    rw [hnone] at hread
    cases hread
  · intro h
    cases hread : read? cs with
    | none => rfl
    | some taken =>
      obtain ⟨n, rest⟩ := taken
      obtain ⟨numeral, hlongest⟩ := isLongest_of_read? hread
      exact absurd hlongest.begins (h _ _ _ hlongest.form)

end Spreadsheet.Number

import Mathlib.Data.List.DropRight
import Spreadsheet.Proofs.Search

/-!
Columns of several letters.

A range reference has one letter on each side, and the reader of references accepts no other
(`Range.read_append_letters_ne_ok`).  The search looks for a piece of this form inside a longer
text, and does not look at what stands before the piece.  So capital letters directly before it are
passed over (`Range.IsFirst.append_letters`): of a column of several letters the last one is read,
as if it stood alone.  `Range.find_reads_last_letter` says for every text which letters are lost.
-/

namespace Spreadsheet

/-- A capital letter is not a digit. -/
theorem isDigit_eq_false_of_isUpper {c : Char} (h : c.isUpper = true) : c.isDigit = false := by
  have hletter := (toNat_of_isUpper h).1
  have hnine : '9'.toNat < 'A'.toNat := by decide
  rw [Bool.eq_false_iff, Ne, Char.isDigit_iff_toNat]
  intro hdigit
  omega

/-- In a corner a capital letter is followed by a digit. -/
theorem IsCorner.isDigit_next {before after : List Char} {letter : Char}
    (h : IsCorner (before ++ letter :: after)) (hletter : letter.isUpper = true) :
    ∃ c rest, after = c :: rest ∧ c.isDigit = true := by
  obtain ⟨first, digits, heq, _, hne, hdigits⟩ := h
  cases before with
  | nil =>
    obtain ⟨c, rest, rfl⟩ := List.exists_cons_of_ne_nil hne
    obtain ⟨_, rfl⟩ := List.cons.inj heq
    exact ⟨c, rest, rfl, hdigits c List.mem_cons_self⟩
  | cons c before =>
    -- The letter would be one of the digits.
    obtain ⟨_, rfl⟩ := List.cons.inj heq
    have hdigit := hdigits letter (List.mem_append_right before List.mem_cons_self)
    rw [isDigit_eq_false_of_isUpper hletter] at hdigit
    cases hdigit

/-- In a range reference a capital letter is followed by a digit. -/
theorem IsRangeText.isDigit_next {before after : List Char} {letter : Char}
    (h : IsRangeText (before ++ letter :: after)) (hletter : letter.isUpper = true) :
    ∃ c rest, after = c :: rest ∧ c.isDigit = true := by
  have hcolon : Char.isUpper ':' = false := by decide
  obtain ⟨first, last, hfirst, hlast, heq⟩ := h
  rcases List.append_eq_append_iff.mp heq with ⟨zs, rfl, hrest⟩ | ⟨zs, rfl, hrest⟩
  · -- The letter stands in the first corner.
    cases zs with
    | nil =>
      obtain ⟨rfl, _⟩ := List.cons.inj hrest
      rw [hcolon] at hletter
      cases hletter
    | cons z zs =>
      obtain ⟨rfl, rfl⟩ := List.cons.inj hrest
      obtain ⟨c, rest, rfl, hdigit⟩ := hfirst.isDigit_next hletter
      exact ⟨c, rest ++ ':' :: last, rfl, hdigit⟩
  · -- The letter stands in the last corner.
    cases zs with
    | nil =>
      obtain ⟨rfl, _⟩ := List.cons.inj hrest
      rw [hcolon] at hletter
      cases hletter
    | cons z zs =>
      obtain ⟨_, rfl⟩ := List.cons.inj hrest
      exact hlast.isDigit_next hletter

/-- A range reference begins with a capital letter. -/
theorem IsRangeText.exists_letter {found : List Char} (h : IsRangeText found) :
    ∃ letter rest, found = letter :: rest ∧ letter.isUpper = true := by
  obtain ⟨_, last, ⟨letter, digits, rfl, hletter, _⟩, _, rfl⟩ := h
  exact ⟨letter, digits ++ ':' :: last, rfl, hletter⟩

namespace Range

variable {before letters found after : List Char}

/-- No capital letter stands directly before a piece: its first column has one letter. -/
def IsWhole (before : List Char) : Prop :=
  ∀ c, before.getLast? = some c → c.isUpper = false

theorem isWhole_iff (before : List Char) :
    IsWhole before ↔ before.rtakeWhile Char.isUpper = [] := by
  rw [List.rtakeWhile_eq_nil_iff, IsWhole]
  constructor
  · intro h hne
    rw [h _ (List.getLast?_eq_some_getLast hne)]
    exact Bool.false_ne_true
  · intro h c hlast
    have hne : before ≠ [] := by
      rintro rfl
      cases hlast
    rw [List.getLast?_eq_some_getLast hne, Option.some_inj] at hlast
    rw [← hlast]
    exact Bool.eq_false_iff.mpr (h hne)

/-- A capital letter directly before the first piece leaves it the first: no piece goes on from one
capital letter to another. -/
theorem IsFirst.append_letter {letter : Char} (h : IsFirst before found after)
    (hletter : letter.isUpper = true) : IsFirst (before ++ [letter]) found after := by
  refine ⟨h.form, ?_⟩
  intro before' found' after' htext hform
  obtain ⟨next, rest, hnext, hupper⟩ := h.form.exists_letter
  obtain ⟨first', rest', hfirst', _⟩ := hform.exists_letter
  rw [List.append_assoc before, List.append_assoc before, List.singleton_append] at htext
  -- The other piece cannot end before the letter, for without the letter it would come first.
  have hends : ∀ more, before ≠ (before' ++ found') ++ more := by
    rintro more rfl
    obtain ⟨hle, _⟩ := h.first before' found' (more ++ found ++ after) (by simp) hform
    rw [hfirst'] at hle
    simp only [List.length_append, List.length_cons] at hle
    omega
  rcases List.append_eq_append_iff.mp htext with ⟨more, hmore, _⟩ | ⟨more, hmore, hafter⟩
  · exact absurd hmore (hends more)
  cases more with
  | nil => exact absurd (by rw [hmore, List.append_nil, List.append_nil]) (hends [])
  | cons c more =>
    rw [List.cons_append, List.cons_append, List.cons.injEq] at hafter
    obtain ⟨rfl, hafter⟩ := hafter
    -- Nor does it hold the letter, which the first letter of `found` would have to follow in it.
    have hholds : ∀ zs, found' ≠ zs ++ letter :: more := by
      intro zs hfound'
      rw [hfound'] at hform
      obtain ⟨d, more', rfl, hdigit⟩ := hform.isDigit_next hletter
      rw [hnext, List.cons_append, List.cons_append, List.cons.injEq] at hafter
      rw [← hafter.1, isDigit_eq_false_of_isUpper hupper] at hdigit
      cases hdigit
    rcases List.append_eq_append_iff.mp hmore with ⟨zs, _, hfound'⟩ | ⟨zs, rfl, hzs⟩
    · exact absurd hfound' (hholds zs)
    cases zs with
    | nil => exact absurd hzs.symm (hholds [])
    | cons z zs =>
      -- So it begins behind the letter, where `found` is the first piece.
      rw [List.cons_append, List.cons.injEq] at hzs
      obtain ⟨rfl, rfl⟩ := hzs
      refine ⟨by simp, ?_⟩
      intro hlength
      obtain rfl : zs = [] := by
        rw [← List.length_eq_zero_iff]
        simp only [List.length_append, List.length_cons, List.length_nil] at hlength
        omega
      refine (h.first before found' after' ?_ hform).2 rfl
      rw [List.append_assoc, List.append_assoc, hafter, List.nil_append]

/-- Capital letters directly before the first piece leave it the first. -/
theorem IsFirst.append_letters (h : IsFirst before found after)
    (hletters : ∀ c ∈ letters, c.isUpper = true) : IsFirst (before ++ letters) found after := by
  induction letters generalizing before with
  | nil => rwa [List.append_nil]
  | cons letter letters ih =>
    have hnext := h.append_letter (hletters letter List.mem_cons_self)
    have hrest := ih hnext fun c hc => hletters c (List.mem_cons_of_mem letter hc)
    rwa [List.append_assoc, List.singleton_append] at hrest

/-- With a capital letter before it, a range reference is refused by the reader. -/
theorem read_append_letters_ne_ok (hform : IsRangeText found) (hne : letters ≠ [])
    (hletters : ∀ c ∈ letters, c.isUpper = true) (r : Range) :
    read (String.ofList (letters ++ found)) ≠ .ok r := by
  intro hread
  have hrange := isRangeText_of_read hread
  obtain ⟨init, letter, rfl⟩ := List.eq_nil_or_concat' letters |>.resolve_left hne
  obtain ⟨next, rest, rfl, hupper⟩ := hform.exists_letter
  rw [String.toList_ofList, List.append_assoc, List.singleton_append] at hrange
  obtain ⟨c, rest', hrest, hdigit⟩ := hrange.isDigit_next
    (hletters letter (List.mem_append_right init List.mem_cons_self))
  obtain ⟨rfl, _⟩ := List.cons.inj hrest
  rw [isDigit_eq_false_of_isUpper hupper] at hdigit
  cases hdigit

/-- What stands before a piece ends with the capital letters that belong to its first column. -/
theorem exists_letters (before : List Char) :
    ∃ start letters, before = start ++ letters ∧ IsWhole start ∧
      (∀ c ∈ letters, c.isUpper = true) ∧ (IsWhole before ↔ letters = []) := by
  refine ⟨before.rdropWhile Char.isUpper, before.rtakeWhile Char.isUpper,
    List.rdropWhile_append_rtakeWhile.symm, ?_, fun c hc => List.mem_rtakeWhile_imp hc,
    isWhole_iff before⟩
  rw [isWhole_iff, List.rtakeWhile_eq_nil_iff]
  exact List.rdropWhile_last_not _ _

/-- A range that is found is read from the first piece. -/
theorem exists_isFirst_of_find {text : String} {r : Range} (h : find text = .ok (some r)) :
    ∃ before found after, text.toList = before ++ found ++ after ∧ IsFirst before found after ∧
      read (String.ofList found) = .ok r := by
  cases hsearch : search? text.toList with
  | none =>
    rw [(find_eq_none_iff text).mpr hsearch] at h
    cases h
  | some corners =>
    obtain ⟨before, after, htext, hpiece⟩ := isFirst_of_search? hsearch
    refine ⟨before, _, after, htext, hpiece, ?_⟩
    rw [find_of_isFirst htext hpiece] at h
    cases hread : read (String.ofList (corners.1 ++ ':' :: corners.2)) with
    | error e =>
      rw [hread] at h
      cases h
    | ok r' =>
      rw [hread] at h
      cases h
      rfl

/-- **Of a column of several letters the last one is read.**  A range that is found stands in the
text with some capital letters directly before it, none of them if and only if its first column has
one letter; what is read is the range without them, although the reader refuses it with them.  The
second column has one letter always, for a colon stands before it.  Whatever the search makes of a
text, it makes the same of the text with more capital letters directly before the first piece. -/
theorem find_reads_last_letter (text : String) :
    (∀ r, find text = .ok (some r) ↔ ∃ before letters found after,
      text.toList = before ++ letters ++ found ++ after ∧
      IsFirst (before ++ letters) found after ∧ IsWhole before ∧
      (∀ c ∈ letters, c.isUpper = true) ∧ (IsWhole (before ++ letters) ↔ letters = []) ∧
      (letters ≠ [] → ∀ r', read (String.ofList (letters ++ found)) ≠ .ok r') ∧
      read (String.ofList found) = .ok r) ∧
    ∀ before letters found after, text.toList = before ++ found ++ after →
      IsFirst before found after → (∀ c ∈ letters, c.isUpper = true) →
      find (String.ofList (before ++ letters ++ found ++ after)) = find text := by
  constructor
  · intro r
    constructor
    · intro h
      obtain ⟨start, found, after, htext, hpiece, hread⟩ := exists_isFirst_of_find h
      obtain ⟨before, letters, rfl, hbefore, hletters, hwhole⟩ := exists_letters start
      exact ⟨before, letters, found, after, htext, hpiece, hbefore, hletters, hwhole,
        fun hne r' => read_append_letters_ne_ok hpiece.form hne hletters r', hread⟩
    · rintro ⟨before, letters, found, after, htext, hpiece, _, _, _, _, hread⟩
      rw [find_of_isFirst htext hpiece, hread]
      rfl
  · intro before letters found after htext hpiece hletters
    rw [find_of_isFirst htext hpiece,
      find_of_isFirst (String.toList_ofList ..) (hpiece.append_letters hletters)]

theorem isFirst_summed : IsFirst "=SUM(".toList "A1:B2".toList ")".toList := by
  obtain ⟨hfirst, hlast, _⟩ := takeRange?_eq_some
    (by rfl : takeRange? "A1:B2".toList = some (['A', '1'], ['B', '2']))
  refine isFirst_append ⟨_, _, hfirst, hlast, rfl⟩ ?_ ?_
  · intro before found after htext hform
    exact le_length_of_takeRange?_eq_none (by decide) htext hform
  · rintro c ⟨⟩
    rfl

theorem isUpper_doubled : ∀ c ∈ "A".toList, c.isUpper = true := by
  intro c hc
  obtain rfl : c = 'A' := List.mem_singleton.mp hc
  rfl

/-- A sum over a range from column AA is read as one from column A. -/
theorem find_reads_last_letter_doubled :
    IsFirst "=SUM(".toList "A1:B2".toList ")".toList ∧
      (∀ c ∈ "A".toList, c.isUpper = true) ∧
      find "=SUM(AA1:B2)" = find "=SUM(A1:B2)" ∧
      ∃ before letters found after, "=SUM(AA1:B2)".toList = before ++ letters ++ found ++ after ∧
        IsFirst (before ++ letters) found after ∧ IsWhole before ∧
          ¬IsWhole (before ++ letters) := by
  have hsame := (find_reads_last_letter "=SUM(A1:B2)").2 _ _ _ _ rfl isFirst_summed isUpper_doubled
  refine ⟨isFirst_summed, isUpper_doubled, hsame, "=SUM(".toList, "A".toList, "A1:B2".toList,
    ")".toList, rfl, isFirst_summed.append_letters isUpper_doubled, ?_, ?_⟩
  · rintro c ⟨⟩
    rfl
  · intro h
    exact absurd (h 'A' rfl) (by decide)

/-- A range may be read from a column that is not whole. -/
theorem find_not_whole :
    ¬∀ (text : String) (r : Range) (before found after : List Char),
      find text = .ok (some r) → text.toList = before ++ found ++ after →
      IsFirst before found after → IsWhole before := by
  intro h
  have hfind : find "=SUM(AA1:B2)" =
      .ok (some ⟨⟨0, 0⟩, ⟨1, 1⟩, by decide, by decide⟩) := rfl
  have hpiece : IsFirst ("=SUM(".toList ++ "A".toList) "A1:B2".toList ")".toList :=
    isFirst_summed.append_letters isUpper_doubled
  have hwhole := h "=SUM(AA1:B2)" _ _ _ _ hfind rfl hpiece
  exact absurd (hwhole 'A' rfl) (by decide)

end Range

end Spreadsheet

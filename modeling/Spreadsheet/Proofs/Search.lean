import Spreadsheet.Proofs.References

/-!
The first range reference in a text.

A piece of a text has the form of a range reference if it is two corners with a colon between them
(`IsRangeText`).  The search for a range goes through the text once and takes as many digits as
there are, so what it finds is the piece of this form that begins furthest to the left, and of those
that begin there the longest (`Range.IsFirst`, `Range.search?_of_isFirst`).  On such a piece it does
what the reader of a range reference does (`Range.read_corners`): `Range.find_leftmost_longest`.
-/

namespace Spreadsheet

/-- Two corners with a colon between them. -/
def IsRangeText (cs : List Char) : Prop :=
  ∃ first last, IsCorner first ∧ IsCorner last ∧ cs = first ++ ':' :: last

/-- There is no colon in a corner. -/
theorem IsCorner.not_mem_colon {corner : List Char} (h : IsCorner corner) : ':' ∉ corner := by
  obtain ⟨letter, digits, rfl, hletter, _, hdigits⟩ := h
  intro hmem
  rcases List.mem_cons.mp hmem with rfl | hmem
  · exact absurd hletter (by decide)
  · exact absurd (hdigits _ hmem) (by decide)

/-- A list with one separator is split at it in one way only. -/
theorem append_cons_inj {α : Type} {c : α} {as bs as' bs' : List α} (has : c ∉ as')
    (hbs : c ∉ bs') (h : as ++ c :: bs = as' ++ c :: bs') : as = as' ∧ bs = bs' := by
  rcases List.append_eq_append_iff.mp h with ⟨zs, hzs, hrest⟩ | ⟨zs, hzs, hrest⟩
  · cases zs with
    | nil =>
      rw [List.append_nil] at hzs
      exact ⟨hzs.symm, (List.cons.inj hrest).2⟩
    | cons z zs =>
      -- The separator would stand in what is before it.
      obtain ⟨rfl, _⟩ := List.cons.inj hrest
      exact absurd (hzs ▸ List.mem_append_right as List.mem_cons_self) has
  · cases zs with
    | nil =>
      rw [List.append_nil] at hzs
      exact ⟨hzs, (List.cons.inj hrest).2.symm⟩
    | cons z zs =>
      obtain ⟨rfl, hbs'⟩ := List.cons.inj hrest
      exact absurd (hbs' ▸ List.mem_append_right zs List.mem_cons_self) hbs

namespace Range

/-! ### What is taken off the front -/

/-- Two corners with a colon between them are taken with all digits that follow. -/
theorem takeRange?_append {first last : List Char} (hfirst : IsCorner first)
    (hlast : IsCorner last) (rest : List Char) :
    takeRange? ((first ++ ':' :: last) ++ rest) =
      some (first, last ++ rest.takeWhile Char.isDigit) := by
  have hcolon : Char.isDigit ':' = false := by decide
  rw [List.append_assoc, List.cons_append, takeRange?, takeCorner?_isCorner hfirst]
  simp [hcolon, takeCorner?_isCorner hlast]

theorem takeRange?_eq_some {cs first last : List Char}
    (h : takeRange? cs = some (first, last)) :
    IsCorner first ∧ IsCorner last ∧ ∃ rest, cs = (first ++ ':' :: last) ++ rest := by
  rw [takeRange?] at h
  split at h
  · next corner rest hcorner =>
    obtain ⟨⟨corner', rest'⟩, hcorner', heq⟩ := Option.map_eq_some_iff.mp h
    cases heq
    obtain ⟨hfirst, rfl⟩ := takeCorner?_eq_some hcorner
    obtain ⟨hlast, rfl⟩ := takeCorner?_eq_some hcorner'
    exact ⟨hfirst, hlast, rest', by simp⟩
  · cases h

/-- What is taken is the longest that has the form. -/
theorem length_le_of_takeRange? {found after first last : List Char} (hfound : IsRangeText found)
    (h : takeRange? (found ++ after) = some (first, last)) :
    found.length ≤ (first ++ ':' :: last).length := by
  obtain ⟨first', last', hfirst, hlast, rfl⟩ := hfound
  rw [takeRange?_append hfirst hlast] at h
  cases h
  simp only [List.length_append, List.length_cons]
  omega

/-- Nothing is taken only where nothing of the form begins. -/
theorem takeRange?_ne_none {found : List Char} (hfound : IsRangeText found) (after : List Char) :
    takeRange? (found ++ after) ≠ none := by
  obtain ⟨first, last, hfirst, hlast, rfl⟩ := hfound
  rw [takeRange?_append hfirst hlast]
  exact Option.some_ne_none _

/-! ### The search -/

/-- The piece `found` between `before` and `after` has the form of a range reference, no piece of
this form begins further to the left, and none that begins at the same place is longer. -/
structure IsFirst (before found after : List Char) : Prop where
  form : IsRangeText found
  first : ∀ before' found' after', before' ++ found' ++ after' = before ++ found ++ after →
    IsRangeText found' → before.length ≤ before'.length ∧
      (before'.length = before.length → found'.length ≤ found.length)

/-- A text has at most one first piece. -/
theorem IsFirst.unique {before found after before' found' after' : List Char}
    (h : IsFirst before found after) (h' : IsFirst before' found' after')
    (htext : before' ++ found' ++ after' = before ++ found ++ after) :
    before' = before ∧ found' = found := by
  obtain ⟨hle, hlong⟩ := h.first _ _ _ htext h'.form
  obtain ⟨hle', hlong'⟩ := h'.first _ _ _ htext.symm h.form
  have hlength : before'.length = before.length := Nat.le_antisymm hle' hle
  have hlength' : found'.length = found.length :=
    Nat.le_antisymm (hlong hlength) (hlong' hlength.symm)
  rw [List.append_assoc, List.append_assoc] at htext
  obtain ⟨hbefore, hrest⟩ := List.append_inj htext hlength
  exact ⟨hbefore, (List.append_inj hrest hlength').1⟩

/-- What the search finds is the first piece of the form. -/
theorem isFirst_of_search? {cs first last : List Char} (h : search? cs = some (first, last)) :
    ∃ before after, cs = before ++ (first ++ ':' :: last) ++ after ∧
      IsFirst before (first ++ ':' :: last) after := by
  induction cs with
  | nil => cases h
  | cons c cs ih =>
    rw [search?] at h
    cases hrange : takeRange? (c :: cs) with
    | some corners =>
      -- Something of the form begins here, and nothing begins further to the left.
      rw [hrange, Option.some_inj] at h
      rw [h] at hrange
      obtain ⟨hfirst, hlast, rest, hcs⟩ := takeRange?_eq_some hrange
      refine ⟨[], rest, hcs, ⟨first, last, hfirst, hlast, rfl⟩, ?_⟩
      intro before' found' after' htext hform
      refine ⟨Nat.zero_le _, ?_⟩
      intro hlength
      obtain rfl : before' = [] := List.length_eq_zero_iff.mp hlength
      rw [hcs, ← List.nil_append (first ++ ':' :: last), ← htext] at hrange
      exact length_le_of_takeRange? hform hrange
    | none =>
      -- Nothing of the form begins here, so the first piece is the one of what follows.
      rw [hrange] at h
      obtain ⟨before, after, rfl, hpiece⟩ := ih h
      refine ⟨c :: before, after, rfl, hpiece.form, ?_⟩
      intro before' found' after' htext hform
      cases before' with
      | nil =>
        rw [List.nil_append] at htext
        rw [List.cons_append, List.cons_append] at htext
        rw [← htext] at hrange
        exact absurd hrange (takeRange?_ne_none hform after')
      | cons c' before' =>
        obtain ⟨hle, hlong⟩ := hpiece.first before' found' after' (List.cons.inj htext).2 hform
        rw [List.length_cons, List.length_cons]
        exact ⟨Nat.succ_le_succ hle, fun hlength => hlong (Nat.succ.inj hlength)⟩

theorem search?_eq_none_iff (cs : List Char) :
    search? cs = none ↔ ∀ found, found <:+: cs → ¬IsRangeText found := by
  constructor
  · intro h
    induction cs with
    | nil =>
      rintro found hfound ⟨first, last, _, _, rfl⟩
      rw [List.infix_nil] at hfound
      simp at hfound
    | cons c cs ih =>
      intro found hfound hform
      rw [search?] at h
      cases hrange : takeRange? (c :: cs) with
      | some corners =>
        rw [hrange] at h
        cases h
      | none =>
        rw [hrange] at h
        rcases List.infix_cons_iff.mp hfound with ⟨after, hafter⟩ | hfound
        · rw [← hafter] at hrange
          exact takeRange?_ne_none hform after hrange
        · exact ih h found hfound hform
  · intro h
    cases hsearch : search? cs with
    | none => rfl
    | some corners =>
      obtain ⟨before, after, hcs, hpiece⟩ := isFirst_of_search? hsearch
      exact absurd hpiece.form (h _ ⟨before, after, hcs.symm⟩)

/-- The search finds the first piece of the form, with its corners. -/
theorem search?_of_isFirst {before found after : List Char} (h : IsFirst before found after) :
    ∃ first last, IsCorner first ∧ IsCorner last ∧ found = first ++ ':' :: last ∧
      search? (before ++ found ++ after) = some (first, last) := by
  cases hsearch : search? (before ++ found ++ after) with
  | none =>
    have hnone := (search?_eq_none_iff _).mp hsearch found ⟨before, after, rfl⟩
    exact absurd h.form hnone
  | some corners =>
    obtain ⟨first, last⟩ := corners
    obtain ⟨hfirst, hlast⟩ := isCorner_of_search? hsearch
    obtain ⟨before', after', htext, hpiece⟩ := isFirst_of_search? hsearch
    obtain ⟨_, hfound⟩ := hpiece.unique h htext
    exact ⟨first, last, hfirst, hlast, hfound, rfl⟩

/-- A piece of the form that has another one in it goes on behind that one with a digit. -/
theorem isDigit_of_overlap {first last between more : List Char} {c : Char}
    (hlast : IsCorner last)
    (hform : IsRangeText (between ++ ((first ++ ':' :: last) ++ c :: more))) :
    c.isDigit = true := by
  obtain ⟨first', last', hfirst', hlast', heq⟩ := hform
  have hcolon : (between ++ first) ++ ':' :: (last ++ c :: more) = first' ++ ':' :: last' := by
    rw [← heq]
    simp
  -- Both have their colon at the same place, so the digits of one row begin those of the other.
  have hsplit := append_cons_inj hfirst'.not_mem_colon hlast'.not_mem_colon hcolon
  obtain ⟨letter, digits, rfl, _, _, _⟩ := hlast
  obtain ⟨letter', digits', rfl, _, _, hdigits'⟩ := hlast'
  refine hdigits' c ?_
  rw [← (List.cons.inj hsplit.2).2]
  exact List.mem_append_right digits List.mem_cons_self

/-- A range reference is the first piece of a text if no piece of its form begins in what stands
before it, and no digit follows. -/
theorem isFirst_append {before found after : List Char} (hform : IsRangeText found)
    (hbefore : ∀ before' found' after', before' ++ found' ++ after' = before ++ found →
      IsRangeText found' → before.length ≤ before'.length)
    (hafter : ∀ c, after.head? = some c → c.isDigit = false) : IsFirst before found after := by
  refine ⟨hform, ?_⟩
  obtain ⟨first, last, hfirst, hlast, rfl⟩ := hform
  intro before' found' after' htext hform'
  have hleft : before.length ≤ before'.length := by
    rcases List.append_eq_append_iff.mp htext with ⟨rest, hrest, _⟩ | ⟨more, hmore, hmore'⟩
    · -- The other piece ends before `after` begins.
      exact hbefore before' found' rest hrest.symm hform'
    · -- The other piece goes on into `after`.
      cases more with
      | nil =>
        rw [List.append_nil] at hmore
        exact hbefore before' found' [] (by rw [List.append_nil, hmore]) hform'
      | cons c more =>
        refine Nat.le_of_not_lt ?_
        intro hlt
        rw [List.append_assoc] at hmore
        rcases List.append_eq_append_iff.mp hmore with ⟨between, _, hfound⟩ | ⟨zs, hzs, _⟩
        · have hdigit : c.isDigit = false := hafter c (by rw [hmore']; rfl)
          rw [hfound] at hform'
          rw [isDigit_of_overlap hlast hform'] at hdigit
          cases hdigit
        · have hlength := congrArg List.length hzs
          rw [List.length_append] at hlength
          omega
  refine ⟨hleft, ?_⟩
  intro hlength
  rw [List.append_assoc, List.append_assoc] at htext
  have hrange := takeRange?_append hfirst hlast after
  have htake : after.takeWhile Char.isDigit = [] := by
    cases after with
    | nil => rfl
    | cons c after => simp [hafter c rfl]
  rw [← (List.append_inj htext hlength).2, htake, List.append_nil] at hrange
  exact length_le_of_takeRange? hform' hrange

end Range

/-! ### The reader -/

theorem CellRef.isCorner_of_read {text : String} {ref : CellRef} (h : read text = .ok ref) :
    IsCorner text.toList := by
  rw [read] at h
  split at h
  · cases h
  · next letter digits htext =>
    split at h
    · next hform =>
      rw [Bool.and_eq_true, Bool.and_eq_true, Bool.not_eq_true', List.isEmpty_eq_false_iff,
        List.all_eq_true] at hform
      exact ⟨letter, digits, htext, hform.1.1, hform.1.2, hform.2⟩
    · cases h

namespace Range

/-- A text with one colon is split there. -/
theorem read_split {first last : List Char} (hfirst : ':' ∉ first) (hlast : ':' ∉ last) :
    read (String.ofList (first ++ ':' :: last)) =
      readCorners (String.ofList first) (String.ofList last) := by
  have hne : ∀ c ∈ first, (c != ':') = true := by
    intro c hc
    rw [bne_iff_ne]
    rintro rfl
    exact hfirst hc
  rw [read, String.toList_ofList, List.dropWhile_append_of_pos hne,
    List.takeWhile_append_of_pos hne]
  simp [hlast]

/-- A text of the form is split at its colon. -/
theorem read_corners {first last : List Char} (hfirst : IsCorner first) (hlast : IsCorner last) :
    read (String.ofList (first ++ ':' :: last)) =
      readCorners (String.ofList first) (String.ofList last) :=
  read_split hfirst.not_mem_colon hlast.not_mem_colon

/-- What is read as a range reference has the form of one. -/
theorem isRangeText_of_read {text : String} {r : Range} (h : read text = .ok r) :
    IsRangeText text.toList := by
  rw [read] at h
  split at h
  · next last hdrop =>
    split at h
    · cases h
    · have hsplit := List.takeWhile_append_dropWhile (p := (· != ':')) (l := text.toList)
      rw [hdrop] at hsplit
      rw [readCorners] at h
      cases hfirst : CellRef.read (String.ofList (text.toList.takeWhile (· != ':'))) with
      | error e =>
        rw [hfirst] at h
        cases h
      | ok a =>
        cases hlast : CellRef.read (String.ofList last) with
        | error e =>
          rw [hfirst, hlast] at h
          cases h
        | ok b =>
          have hcorner := CellRef.isCorner_of_read hfirst
          have hcorner' := CellRef.isCorner_of_read hlast
          rw [String.toList_ofList] at hcorner hcorner'
          exact ⟨_, _, hcorner, hcorner', hsplit.symm⟩
  · cases h

/-- A search that finds something reads it. -/
theorem find_of_isFirst {text : String} {before found after : List Char}
    (htext : text.toList = before ++ found ++ after) (h : IsFirst before found after) :
    find text = (read (String.ofList found)).map some := by
  obtain ⟨first, last, hfirst, hlast, rfl, hsearch⟩ := search?_of_isFirst h
  rw [find, htext, hsearch, read_corners hfirst hlast]

theorem find_eq_none_iff (text : String) : find text = .ok none ↔ search? text.toList = none := by
  rw [find]
  constructor
  · intro h
    split at h
    · next hsearch => exact hsearch
    · next first last _ =>
      -- What is found is read, and a range that was read is not nothing.
      cases hread : readCorners (String.ofList first) (String.ofList last) with
      | error e =>
        rw [hread] at h
        cases h
      | ok r =>
        rw [hread] at h
        cases h
  · intro h
    rw [h]

/-- **The search for a range is leftmost and longest.**  It finds nothing exactly in a text no piece
of which has the form of a range reference.  Any other text has a first piece of this form, the
longest one of those that begin furthest to the left, and the search returns or fails as the reader
does on that piece alone, whatever may follow.  So a range reference is found in every text in which
nothing of this form begins before it and no digit follows it. -/
theorem find_leftmost_longest (text : String) :
    (find text = .ok none ↔ ∀ found, found <:+: text.toList → ¬IsRangeText found) ∧
    (find text ≠ .ok none → ∃ before found after, text.toList = before ++ found ++ after ∧
      IsFirst before found after) ∧
    (∀ before found after, text.toList = before ++ found ++ after → IsFirst before found after →
      find text = (read (String.ofList found)).map some) ∧
    ∀ (before range after : String) (r : Range), text = before ++ range ++ after →
      read range = .ok r →
      (∀ before' found' after', before' ++ found' ++ after' = before.toList ++ range.toList →
        IsRangeText found' → before.toList.length ≤ before'.length) →
      (∀ c, after.toList.head? = some c → c.isDigit = false) →
      find text = .ok (some r) := by
  refine ⟨?_, ?_, ?_, ?_⟩
  · exact (find_eq_none_iff text).trans (search?_eq_none_iff text.toList)
  · intro h
    cases hsearch : search? text.toList with
    | none => exact absurd ((find_eq_none_iff text).mpr hsearch) h
    | some corners =>
      obtain ⟨before, after, htext, hpiece⟩ := isFirst_of_search? hsearch
      exact ⟨before, _, after, htext, hpiece⟩
  · intro before found after htext hpiece
    exact find_of_isFirst htext hpiece
  · rintro before range after r rfl hread hbefore hafter
    have hpiece := isFirst_append (isRangeText_of_read hread) hbefore hafter
    rw [find_of_isFirst (by rw [String.toList_append, String.toList_append]) hpiece,
      String.ofList_toList, hread]
    rfl

/-- Nothing of the form begins at a place where nothing is taken. -/
theorem le_length_of_takeRange?_eq_none {cs : List Char} {n : Nat}
    (h : ∀ i < n, takeRange? (cs.drop i) = none) {before found after : List Char}
    (htext : before ++ found ++ after = cs) (hform : IsRangeText found) : n ≤ before.length := by
  refine Nat.le_of_not_lt ?_
  intro hlt
  have hnone := h before.length hlt
  rw [← htext, List.append_assoc, List.drop_left] at hnone
  exact takeRange?_ne_none hform after hnone

/-- A first piece with a row of zero is refused although a range follows it, and a range is found
behind a piece that breaks off. -/
theorem find_leftmost_longest_rowZero :
    IsFirst "=".toList "A0:B1".toList "+A1:B2".toList ∧
      find "=A0:B1+A1:B2" = .error (.rowZero "A0") ∧
      find "=SUM(A1:A, B1:C12)" =
        .ok (some ⟨⟨0, 1⟩, ⟨11, 2⟩, by decide, by decide⟩) := by
  have hform : IsRangeText "A0:B1".toList := by
    obtain ⟨hfirst, hlast, _⟩ := takeRange?_eq_some
      (by rfl : takeRange? "A0:B1".toList = some (['A', '0'], ['B', '1']))
    exact ⟨_, _, hfirst, hlast, rfl⟩
  have hpiece : IsFirst "=".toList "A0:B1".toList "+A1:B2".toList := by
    refine isFirst_append hform ?_ ?_
    · intro before' found' after' htext hform'
      exact le_length_of_takeRange?_eq_none (by decide) htext hform'
    · rintro c ⟨⟩
      rfl
  refine ⟨hpiece, (find_leftmost_longest _).2.2.1 _ _ _ rfl hpiece, ?_⟩
  refine (find_leftmost_longest _).2.2.2 "=SUM(A1:A, " "B1:C12" ")" _ rfl rfl ?_ ?_
  · intro before' found' after' htext hform'
    exact le_length_of_takeRange?_eq_none (by decide) htext hform'
  · rintro c ⟨⟩
    rfl

end Range

end Spreadsheet

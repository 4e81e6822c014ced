import Spreadsheet.Formula.Evaluation
import Spreadsheet.Proofs.References

/-!
When an evaluation has no outcome.

Failures of a formula are outcomes, but two things interrupt the evaluation.  One is a row number
that is too long to be read, if the reader of the formula's range gets to it; neither the grid nor
the reducers have a part in that.  The other is a reducer that is called and fails with what no
formula error can be made of.  `evaluate_eq_error_iff` says exactly when either happens, and
`evaluate_returns_iff` when there is an outcome.  If all reducers tell their failures, only the text
counts (`isEvaluable_iff_of_tells`).
-/

namespace Spreadsheet.Formula

open Number (TooManyDigits maxDigits digitsValue)

/-- The row number of a corner is too long to be read. -/
def IsLong (corner : List Char) : Prop :=
  maxDigits < (rowDigits corner).length

instance (corner : List Char) : Decidable (IsLong corner) :=
  inferInstanceAs (Decidable (_ < _))

/-- Reading the corners of a range stops at a row number of so many digits: at the first corner's,
or at the last one's if the first row can be read and is not zero. -/
def StopsAt (first last : List Char) (digits : Nat) : Prop :=
  IsLong first ∧ digits = (rowDigits first).length ∨
    ¬IsLong first ∧ digitsValue (rowDigits first) ≠ 0 ∧ IsLong last ∧
      digits = (rowDigits last).length

/-- The text is a formula, and reading the first range in it stops at a row number of so many
digits. -/
def HasLongRow (text : String) (digits : Nat) : Prop :=
  IsFormula text ∧ ∃ first last, Range.search? text.toList = some (first, last) ∧
    StopsAt first last digits

/-- Reading the text as a formula does not stop at a row number. -/
def IsReadable (text : String) : Prop :=
  ¬∃ digits, HasLongRow text digits

theorem isReadable_of_search?_eq_none {text : String} (h : Range.search? text.toList = none) :
    IsReadable text := by
  rintro ⟨digits, _, first, last, hsearch, _⟩
  rw [h] at hsearch
  cases hsearch

theorem between_ne_tooManyDigits (firstText lastText : String) (first last : CellRef)
    (e : TooManyDigits) :
    Range.between firstText lastText first last ≠ .error (.tooManyDigits e) := by
  intro h
  rw [Range.between] at h
  split at h
  · cases h
  · cases h

/-- Corners that are in the form of a reference stop the reader exactly at such a row number. -/
theorem readCorners_eq_tooManyDigits_iff {first last : List Char} (hfirst : IsCorner first)
    (hlast : IsCorner last) (e : TooManyDigits) :
    Range.readCorners (String.ofList first) (String.ofList last) = .error (.tooManyDigits e) ↔
      StopsAt first last e.digits := by
  obtain ⟨digits⟩ := e
  rw [Range.readCorners, CellRef.read_corner hfirst, CellRef.read_corner hlast]
  by_cases hlong : maxDigits < (rowDigits first).length
  -- The first row number is too long.
  · simp [StopsAt, IsLong, hlong, bind, Except.bind, eq_comm]
  · by_cases hzero : digitsValue (rowDigits first) = 0
    -- The first row is zero, and the last one is not looked at.
    · simp [StopsAt, IsLong, hlong, hzero, bind, Except.bind]
    · by_cases hlong' : maxDigits < (rowDigits last).length
      -- The last row number is too long.
      · simp [StopsAt, IsLong, hlong, hzero, hlong', bind, Except.bind, eq_comm]
      · by_cases hzero' : digitsValue (rowDigits last) = 0
        -- The last row is zero.
        · simp [StopsAt, IsLong, hlong, hzero, hlong', hzero', bind, Except.bind]
        -- Both rows can be read.
        · simp [StopsAt, IsLong, hlong, hzero, hlong', hzero', bind, Except.bind,
            between_ne_tooManyDigits]

theorem find_eq_tooManyDigits_iff (text : String) (e : TooManyDigits) :
    Range.find text = .error (.tooManyDigits e) ↔
      ∃ first last, Range.search? text.toList = some (first, last) ∧
        StopsAt first last e.digits := by
  rw [Range.find]
  cases hsearch : Range.search? text.toList with
  | none => simp
  | some corners =>
    obtain ⟨first, last⟩ := corners
    obtain ⟨hfirst, hlast⟩ := Range.isCorner_of_search? hsearch
    have hread := readCorners_eq_tooManyDigits_iff hfirst hlast e
    simp only
    constructor
    · intro h
      refine ⟨first, last, rfl, hread.mp ?_⟩
      cases hcorners : Range.readCorners (String.ofList first) (String.ofList last) with
      | error e' =>
        rw [hcorners] at h
        cases h
        rfl
      | ok r =>
        rw [hcorners] at h
        cases h
    · rintro ⟨first', last', heq, hstops⟩
      cases heq
      rw [hread.mpr hstops]
      rfl

/-- A formula whose range can be looked for does not stop at a row number. -/
theorem isReadable_of_find_eq_ok {text : String} {found : Option Range}
    (h : Range.find text = .ok found) : IsReadable text := by
  rintro ⟨digits, _, first, last, hsearch, hstops⟩
  have herror := (find_eq_tooManyDigits_iff text ⟨digits⟩).mpr ⟨first, last, hsearch, hstops⟩
  rw [h] at herror
  cases herror

section Traversal

variable {ε α β : Type} {f : α → Except ε β} {a : α} {l : List α} {e : ε} {bs : List β}

/-- A list is worked on from its head. -/
theorem mapM_cons_eq_ok_iff :
    (a :: l).mapM f = .ok bs ↔ ∃ b bs', f a = .ok b ∧ l.mapM f = .ok bs' ∧ bs = b :: bs' := by
  rw [List.mapM_cons]
  cases f a with
  | error e => simp [bind, Except.bind]
  | ok b =>
    cases l.mapM f with
    | error e => simp [bind, Except.bind]
    | ok bs' => simp [bind, Except.bind, pure, Except.pure, eq_comm]

theorem mapM_cons_eq_error_iff :
    (a :: l).mapM f = .error e ↔ f a = .error e ∨ ∃ b, f a = .ok b ∧ l.mapM f = .error e := by
  rw [List.mapM_cons]
  cases f a with
  | error e' => simp [bind, Except.bind]
  | ok b =>
    cases l.mapM f with
    | error e' => simp [bind, Except.bind]
    | ok bs' => simp [bind, Except.bind, pure, Except.pure]

/-- If not all of a list can be worked on, there is a first member at which this fails. -/
theorem exists_split_of_mapM_eq_error (h : l.mapM f = .error e) :
    ∃ before a after, l = before ++ a :: after ∧ (∀ b ∈ before, ∃ c, f b = .ok c) ∧
      f a = .error e := by
  induction l with
  | nil => cases h
  | cons a l ih =>
    rcases mapM_cons_eq_error_iff.mp h with ha | ⟨b, hb, hl⟩
    · exact ⟨[], a, l, rfl, fun b hb => absurd hb List.not_mem_nil, ha⟩
    · obtain ⟨before, a', after, rfl, hbefore, ha'⟩ := ih hl
      refine ⟨a :: before, a', after, rfl, fun x hx => ?_, ha'⟩
      rcases List.mem_cons.mp hx with rfl | hx
      · exact ⟨b, hb⟩
      · exact hbefore x hx

/-- If all of a list can be worked on, so can every member. -/
theorem exists_of_mapM_eq_ok (h : l.mapM f = .ok bs) (ha : a ∈ l) : ∃ b, f a = .ok b := by
  induction l generalizing bs with
  | nil => exact absurd ha List.not_mem_nil
  | cons a' l ih =>
    obtain ⟨b, bs', hb, hl, rfl⟩ := mapM_cons_eq_ok_iff.mp h
    rcases List.mem_cons.mp ha with rfl | ha
    · exact ⟨b, hb⟩
    · exact ih hl ha

/-- Every result comes from a member. -/
theorem exists_mem_of_mem_mapM (h : l.mapM f = .ok bs) {b : β} (hb : b ∈ bs) :
    ∃ a ∈ l, f a = .ok b := by
  induction l generalizing bs with
  | nil =>
    cases h
    exact absurd hb List.not_mem_nil
  | cons a l ih =>
    obtain ⟨b', bs', hb', hl, rfl⟩ := mapM_cons_eq_ok_iff.mp h
    rcases List.mem_cons.mp hb with rfl | hb
    · exact ⟨a, List.mem_cons_self, hb'⟩
    · obtain ⟨a', hmem, ha'⟩ := ih hl hb
      exact ⟨a', List.mem_cons_of_mem a hmem, ha'⟩

/-- There are as many results as members. -/
theorem length_of_mapM_eq_ok (h : l.mapM f = .ok bs) : bs.length = l.length := by
  induction l generalizing bs with
  | nil =>
    cases h
    rfl
  | cons a l ih =>
    obtain ⟨b, bs', _, hl, rfl⟩ := mapM_cons_eq_ok_iff.mp h
    rw [List.length_cons, List.length_cons, ih hl]

end Traversal

section Reading

variable {g : Grid}

open Number (ofText)

/-- A cell of the grid is read as a number. -/
theorem numberAt_of_inBounds {ref : CellRef} (h : g.InBounds ref.row ref.col) :
    numberAt g ref = .ok (ofText (g.cellAt ref.row.toNat ref.col.toNat).value) := by
  rw [numberAt, Grid.get, if_pos h]

theorem numberAt_eq_ok {ref : CellRef} {x : Float} (h : numberAt g ref = .ok x) :
    g.InBounds ref.row ref.col := by
  by_cases hin : g.InBounds ref.row ref.col
  · exact hin
  · rw [numberAt, Grid.get, if_neg hin] at h
    cases h

theorem numberAt_eq_error {ref : CellRef} {e : FormulaError} (h : numberAt g ref = .error e) :
    e = .outsideGrid ref ∧ ¬g.InBounds ref.row ref.col := by
  by_cases hin : g.InBounds ref.row ref.col
  · rw [numberAt_of_inBounds hin] at h
    cases h
  · rw [numberAt, Grid.get, if_neg hin] at h
    cases h
    exact ⟨rfl, hin⟩

end Reading

theorem rangeValues_eq_error {g : Grid} {r : Range} {e : FormulaError}
    (h : rangeValues g r = .error e) : ∃ ref ∈ r.cells, e = .outsideGrid ref := by
  obtain ⟨before, ref, after, hcells, _, href⟩ := exists_split_of_mapM_eq_error h
  exact ⟨ref, hcells ▸ List.mem_append_right before List.mem_cons_self,
    (numberAt_eq_error href).1⟩

/-- What gets out of an evaluation when a reducer fails: an interrupt, or what went wrong while the
failure was told, if that is no formula error. -/
inductive ReducerError.Escapes : ReducerError → ReducerError → Prop
  | interrupt (e : ForeignError) : Escapes (.interrupt e) (.interrupt e)
  | untold {kind : String} {failure : ReducerError}
    (hother : ∀ kind' message, failure ≠ .formula kind' message) :
    Escapes (.untold kind failure) failure

theorem ofReducer_eq_escaped_iff (name : String) (e failure : ReducerError) :
    FormulaError.ofReducer name e = .escaped failure ↔ e.Escapes failure := by
  constructor
  · intro h
    cases e with
    | formula kind message => cases h
    | foreign e => cases h
    | untold kind e' =>
      cases e' with
      | formula kind' message => cases h
      | foreign e' =>
        cases h
        exact .untold nofun
      | untold kind' e' =>
        cases h
        exact .untold nofun
      | interrupt e' =>
        cases h
        exact .untold nofun
    | interrupt e =>
      cases h
      exact .interrupt e
  · intro h
    cases h with
    | interrupt e => rfl
    | untold hother =>
      cases failure with
      | formula kind message => exact absurd rfl (hother kind message)
      | foreign e | untold kind e | interrupt e => rfl

theorem ofReducer_ne_reference (name : String) (e : ReducerError) (e' : ReferenceError) :
    FormulaError.ofReducer name e ≠ .reference e' := by
  intro h
  rw [FormulaError.ofReducer.eq_def] at h
  split at h <;> cases h

section Computing

variable {registry : Registry} {g : Grid} {formula : String}

/-- A computation fails where its range is looked for, or where it is read, or else comes to what
the function makes of the numbers. -/
theorem compute_cases (registry : Registry) (g : Grid) (formula : String) :
    (∃ e, rangeOf formula = .error e ∧ compute registry g formula = .error e) ∨
    (∃ r ref, rangeOf formula = .ok r ∧ rangeValues g r = .error (.outsideGrid ref) ∧
      compute registry g formula = .error (.outsideGrid ref)) ∨
    ∃ r values, rangeOf formula = .ok r ∧ rangeValues g r = .ok values ∧
      compute registry g formula = applyCalled registry formula values := by
  rw [compute]
  cases hrange : rangeOf formula with
  | error e => exact .inl ⟨e, rfl, rfl⟩
  | ok r =>
    refine .inr ?_
    simp only [bind, Except.bind]
    cases hvalues : rangeValues g r with
    | error e =>
      obtain ⟨ref, _, rfl⟩ := rangeValues_eq_error hvalues
      exact .inl ⟨r, ref, rfl, hvalues, rfl⟩
    | ok values => exact .inr ⟨r, values, rfl, hvalues, rfl⟩

theorem rangeOf_eq_ok_iff (formula : String) (r : Range) :
    rangeOf formula = .ok r ↔ Range.find formula = .ok (some r) := by
  rw [rangeOf]
  rcases Range.find formula with e | _ | r' <;> simp

theorem rangeOf_eq_reference_iff (formula : String) (e : ReferenceError) :
    rangeOf formula = .error (.reference e) ↔ Range.find formula = .error e := by
  rw [rangeOf]
  rcases Range.find formula with e | _ | r' <;> simp

theorem rangeOf_ne_escaped (formula : String) (e : ReducerError) :
    rangeOf formula ≠ .error (.escaped e) := by
  rw [rangeOf]
  rcases Range.find formula with e | _ | r' <;> simp

/-- A called function fails if its reducer does. -/
theorem applyCalled_eq_error {values : List Float} {e : FormulaError}
    (h : applyCalled registry formula values = .error e) :
    e = .unknownFunction formula ∨ ∃ name reducer failure,
      registry.called? formula = some (name, reducer) ∧ reducer.call values = .error failure ∧
        e = .ofReducer name failure := by
  rw [applyCalled] at h
  split at h
  · cases h
    exact .inl rfl
  · next name reducer hcalled =>
    rw [applyReducer] at h
    cases hcall : reducer.call values with
    | error failure =>
      rw [hcall] at h
      cases h
      exact .inr ⟨name, reducer, failure, hcalled, hcall, rfl⟩
    | ok x =>
      rw [hcall] at h
      cases h

/-- A computation fails with a refused reference exactly if no range can be read: nothing is read
once the range is known. -/
theorem compute_eq_reference_iff (registry : Registry) (g : Grid) (formula : String)
    (e : ReferenceError) :
    compute registry g formula = .error (.reference e) ↔ Range.find formula = .error e := by
  rw [← rangeOf_eq_reference_iff]
  rcases compute_cases registry g formula with ⟨e', hrange, hcompute⟩ |
    ⟨r, ref, hrange, _, hcompute⟩ | ⟨r, values, hrange, _, hcompute⟩
  · rw [hcompute, hrange]
    simp
  · rw [hcompute, hrange]
    simp
  · -- The range is known, and none of the other failures is a refused reference.
    rw [hcompute, hrange]
    simp only [reduceCtorEq, iff_false]
    intro h
    rcases applyCalled_eq_error h with heq | ⟨name, _, failure, _, _, heq⟩
    · cases heq
    · exact ofReducer_ne_reference name failure e heq.symm

/-- The formula reads its range and calls a reducer, and what the reducer fails with gets out of the
evaluation. -/
def LetsOut (registry : Registry) (g : Grid) (text : String) (failure : ReducerError) : Prop :=
  IsFormula text ∧ ∃ r values name reducer e, Range.find text = .ok (some r) ∧
    rangeValues g r = .ok values ∧ registry.called? text = some (name, reducer) ∧
      reducer.call values = .error e ∧ e.Escapes failure

theorem compute_eq_escaped_iff (hformula : IsFormula formula) (failure : ReducerError) :
    compute registry g formula = .error (.escaped failure) ↔
      LetsOut registry g formula failure := by
  constructor
  · intro h
    rcases compute_cases registry g formula with ⟨e, hrange, hcompute⟩ |
      ⟨r, ref, _, _, hcompute⟩ | ⟨r, values, hrange, hvalues, hcompute⟩
    · rw [hcompute] at h
      cases h
      exact absurd hrange (rangeOf_ne_escaped formula failure)
    · rw [hcompute] at h
      cases h
    · rw [hcompute] at h
      rcases applyCalled_eq_error h with heq | ⟨name, reducer, e, hcalled, hcall, heq⟩
      · cases heq
      · exact ⟨hformula, r, values, name, reducer, e, (rangeOf_eq_ok_iff formula r).mp hrange,
          hvalues, hcalled, hcall, (ofReducer_eq_escaped_iff name e failure).mp heq.symm⟩
  · rintro ⟨_, r, values, name, reducer, e, hfind, hvalues, hcalled, hcall, hescapes⟩
    rw [compute, (rangeOf_eq_ok_iff formula r).mpr hfind]
    simp only [bind, Except.bind, hvalues, applyCalled, hcalled, applyReducer, hcall]
    exact congrArg Except.error ((ofReducer_eq_escaped_iff name e failure).mpr hescapes)

end Computing

/-- What interrupts the evaluation of a text: a row number, or what a reducer lets out. -/
def Interrupts (registry : Registry) (g : Grid) (text : String) : Interruption → Prop
  | .digits e => HasLongRow text e.digits
  | .reducer failure => LetsOut registry g text failure

theorem interruption?_eq_some_iff (e : FormulaError) (i : Interruption) :
    e.interruption? = some i ↔
      (∃ digits, e = .reference (.tooManyDigits digits) ∧ i = .digits digits) ∨
        ∃ failure, e = .escaped failure ∧ i = .reducer failure := by
  rw [FormulaError.interruption?.eq_def]
  split
  · simp [eq_comm]
  · simp [eq_comm]
  · next hdigits hescaped =>
    simp only [reduceCtorEq, false_iff]
    rintro (⟨digits, rfl, _⟩ | ⟨failure, rfl, _⟩)
    · exact hdigits digits rfl
    · exact hescaped failure rfl

/-- A computation interrupts exactly if the formula does. -/
theorem evaluate_eq_error_iff (registry : Registry) (g : Grid) (text : String) (i : Interruption) :
    evaluate registry g text = .error i ↔ Interrupts registry g text i := by
  by_cases hformula : IsFormula text
  · have hlong : ∀ e, compute registry g text = .error (.reference (.tooManyDigits e)) ↔
        HasLongRow text e.digits := by
      intro e
      rw [compute_eq_reference_iff, find_eq_tooManyDigits_iff, HasLongRow, and_iff_right hformula]
    have hescaped : ∀ failure, compute registry g text = .error (.escaped failure) ↔
        LetsOut registry g text failure := compute_eq_escaped_iff hformula
    have hevaluate : evaluate registry g text = .error i ↔
        ∃ e, compute registry g text = .error e ∧ e.interruption? = some i := by
      rw [evaluate, if_pos hformula]
      cases compute registry g text with
      | ok x => simp
      | error e =>
        cases he : e.interruption? with
        | none => simp [he]
        | some i' => simp [he]
    rw [hevaluate]
    constructor
    · rintro ⟨e, hcompute, hi⟩
      rcases (interruption?_eq_some_iff e i).mp hi with ⟨digits, rfl, rfl⟩ | ⟨failure, rfl, rfl⟩
      · exact (hlong digits).mp hcompute
      · exact (hescaped failure).mp hcompute
    · intro h
      cases i with
      | digits e => exact ⟨_, (hlong e).mpr h, rfl⟩
      | reducer failure => exact ⟨_, (hescaped failure).mpr h, rfl⟩
  · rw [evaluate, if_neg hformula]
    simp only [reduceCtorEq, false_iff]
    intro h
    cases i with
    | digits e => exact hformula h.1
    | reducer failure => exact hformula h.1

/-- No row number of the text is too long, and nothing gets out of the reducer that it calls. -/
def IsEvaluable (registry : Registry) (g : Grid) (text : String) : Prop :=
  IsReadable text ∧ ¬∃ failure, LetsOut registry g text failure

/-- What has an outcome can be read. -/
theorem isReadable_of_evaluate_eq_ok {registry : Registry} {g : Grid} {text : String}
    {outcome : Outcome} (h : evaluate registry g text = .ok outcome) : IsReadable text := by
  rintro ⟨digits, hlong⟩
  rw [(evaluate_eq_error_iff registry g text (.digits ⟨digits⟩)).mpr hlong] at h
  cases h

/-- **An evaluation has an outcome exactly if nothing interrupts it**: its formula has no row number
that is too long, and it calls no reducer that, given the numbers of the range, is interrupted or
fails with what cannot be told.  This holds whatever the grid is and whatever else reducers answer
or raise. -/
theorem evaluate_returns_iff (registry : Registry) (g : Grid) (text : String) :
    (∃ outcome, evaluate registry g text = .ok outcome) ↔ IsEvaluable registry g text := by
  have hinterrupts := evaluate_eq_error_iff registry g text
  constructor
  · rintro ⟨outcome, houtcome⟩
    refine ⟨isReadable_of_evaluate_eq_ok houtcome, ?_⟩
    rintro ⟨failure, hout⟩
    rw [(hinterrupts (.reducer failure)).mpr hout] at houtcome
    cases houtcome
  · rintro ⟨hread, htold⟩
    cases h : evaluate registry g text with
    | ok outcome => exact ⟨outcome, rfl⟩
    | error i =>
      have hi := (hinterrupts i).mp h
      cases i with
      | digits e => exact absurd ⟨e.digits, hi⟩ hread
      | reducer failure => exact absurd ⟨failure, hi⟩ htold

/-- A reducer that fails, and whose failure fails to be told. -/
example (e : ForeignError) :
    evaluate ⟨[("F", ⟨"", fun _ => .error (.untold "KeyError" (.foreign e))⟩)]⟩
      (.blank 1 1 (by decide) (by decide) (by decide)) "=F(A1:A1)" =
        .error (.reducer (.foreign e)) := by
  cbv

/-- No reducer, given any numbers, fails with what gets out of an evaluation. -/
def Registry.TellsFailures (registry : Registry) : Prop :=
  ∀ entry ∈ registry.entries, ∀ values e failure,
    entry.2.call values = .error e → ¬e.Escapes failure

/-- A reducer that fails with formula errors alone tells its failures. -/
theorem not_escapes_formula (kind : ErrorKind) (message : String) (failure : ReducerError) :
    ¬(ReducerError.formula kind message).Escapes failure :=
  nofun

theorem Registry.tellsFailures_standard : Registry.standard.TellsFailures := by
  intro entry hentry values e failure hcall
  rw [standard, List.mem_cons, List.mem_singleton] at hentry
  rcases hentry with rfl | rfl
  · cases hcall
  · rw [Reducer.call_average] at hcall
    split at hcall
    · cases hcall
      exact not_escapes_formula _ _ failure
    · cases hcall

theorem mem_entries_of_called? {registry : Registry} {text : String} {entry : String × Reducer}
    (h : registry.called? text = some entry) : entry ∈ registry.entries :=
  List.mem_mergeSort.mp (List.mem_of_find?_eq_some h)

theorem not_letsOut_of_tells {registry : Registry} (htells : registry.TellsFailures) (g : Grid)
    (text : String) (failure : ReducerError) : ¬LetsOut registry g text failure := by
  rintro ⟨_, r, values, name, reducer, e, _, _, hcalled, hcall, hescapes⟩
  exact htells _ (mem_entries_of_called? hcalled) values e failure hcall hescapes

/-- If all reducers tell their failures, what can be read can be evaluated on every grid. -/
theorem isEvaluable_iff_of_tells {registry : Registry} (htells : registry.TellsFailures) (g : Grid)
    (text : String) : IsEvaluable registry g text ↔ IsReadable text :=
  and_iff_left fun ⟨failure, hout⟩ => not_letsOut_of_tells htells g text failure hout

/-- A formula that begins with a range can have a first row number that is too long. -/
theorem hasLongRow_of_first {letter : Char} {digits rest last : List Char}
    (hletter : letter.isUpper = true) (hdigits : ∀ c ∈ digits, c.isDigit = true)
    (hlong : maxDigits < digits.length) (hlast : Range.takeCorner? rest = some (last, [])) :
    HasLongRow (String.ofList ('=' :: letter :: (digits ++ ':' :: rest))) digits.length := by
  have hne : digits ≠ [] := by
    rintro rfl
    cases hlong
  refine ⟨?_, letter :: digits, last, ?_, .inl ⟨?_, rfl⟩⟩
  · rw [IsFormula, String.toList_ofList]
    exact List.prefix_append ['='] _
  -- Nothing begins at the equals sign, and the range follows it.
  · have hcorner : Range.takeCorner? (letter :: (digits ++ ':' :: rest)) =
        some (letter :: digits, ':' :: rest) := by
      have hcolon : Char.isDigit ':' = false := by decide
      have htake := Range.takeCorner?_isCorner ⟨letter, digits, rfl, hletter, hne, hdigits⟩
        (':' :: rest)
      simpa [hcolon] using htake
    have hrange : Range.takeRange? (letter :: (digits ++ ':' :: rest)) =
        some (letter :: digits, last) := by
      rw [Range.takeRange?, hcorner]
      simp [hlast]
    have hskip : Range.takeRange? ('=' :: letter :: (digits ++ ':' :: rest)) = none := rfl
    rw [String.toList_ofList, Range.search?, hskip]
    simp only
    rw [Range.search?, hrange]
  · exact hlong

/-- A formula with a row number of one digit too many. -/
def overlong : String :=
  String.ofList ('=' :: 'A' :: (List.replicate (maxDigits + 1) '1' ++ ':' :: ['A', '1']))

theorem hasLongRow_overlong : HasLongRow overlong (maxDigits + 1) := by
  have hdigits : ∀ c ∈ List.replicate (maxDigits + 1) '1', c.isDigit = true := by
    intro c hc
    rw [List.eq_of_mem_replicate hc]
    rfl
  have hlong : maxDigits < (List.replicate (maxDigits + 1) '1').length := by
    rw [List.length_replicate]
    exact Nat.lt_succ_self maxDigits
  have hrow := hasLongRow_of_first (by rfl : 'A'.isUpper = true) hdigits hlong
    (by rfl : Range.takeCorner? ['A', '1'] = some (['A', '1'], []))
  rwa [List.length_replicate] at hrow

/-- There is a formula without an outcome, so not all failures of formulas are outcomes. -/
theorem evaluate_not_total :
    ¬∀ (registry : Registry) (g : Grid) (text : String),
      ∃ outcome, evaluate registry g text = .ok outcome := by
  intro h
  have herror : ∀ g, evaluate Registry.standard g overlong = .error (.digits ⟨maxDigits + 1⟩) :=
    fun g => (evaluate_eq_error_iff _ g _ (.digits ⟨maxDigits + 1⟩)).mpr hasLongRow_overlong
  obtain ⟨outcome, houtcome⟩ := h Registry.standard
    (Grid.blank 1 1 (by decide) (by decide) (by decide)) overlong
  rw [herror] at houtcome
  cases houtcome

end Spreadsheet.Formula

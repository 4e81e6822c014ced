import Spreadsheet.Proofs.Operations
import Spreadsheet.Store.Sheets

/-!
What a store of worksheets does to a service.

A service may refuse calls (`Service.RefusesOnly`).  Reading leaves all books as they are and gives
the text of the key's worksheet, if it is not refused (`Sheets.get_cases`).  A text that fits into a
cell is put there, with the worksheet added first if there is none, and nothing else changes; if
that is refused, an empty worksheet may be left (`Sheets.set_cases`).  A service that answers all
calls (`Service.Answers`) refuses neither.
-/

namespace Spreadsheet.Store

/-- A call that is refused, by its method, with the code and the message of the refusal. -/
structure Refusal where
  method : Method
  code : Int
  message : String
deriving DecidableEq, Repr

/-- How a refused call fails. -/
def Refusal.error (r : Refusal) : ServiceError :=
  .api r.code r.message

namespace Service

/-- The service answers all calls. -/
def Answers (s : Service) : Prop :=
  ∀ m, s.failures.lookup m = none

/-- Calls fail only by being refused. -/
def RefusesOnly (s : Service) (refusals : List Refusal) : Prop :=
  ∀ m e, s.failures.lookup m = some e → ∃ r ∈ refusals, r.method = m ∧ e = r.error

theorem RefusesOnly.of_failures {s t : Service} {refusals : List Refusal}
    (h : s.RefusesOnly refusals) (hfailures : t.failures = s.failures) :
    t.RefusesOnly refusals := by
  intro m e hlookup
  rw [hfailures] at hlookup
  exact h m e hlookup

theorem Answers.refusesOnly {s : Service} (h : s.Answers) : s.RefusesOnly [] := by
  intro m e hlookup
  rw [h m] at hlookup
  cases hlookup

/-- A call is remembered and changes nothing else. -/
theorem call_apply (c : Call) (s : Service) :
    call c s =
      (match s.failures.lookup c.method with
        | some e => .error e
        | none => .ok (), { s with calls := c :: s.calls }) := by
  unfold call
  cases s.failures.lookup c.method <;> rfl

/-- Looking for a worksheet only makes a call. -/
theorem worksheet_apply (id : BookId) (sheet : String) (s : Service) :
    worksheet id sheet s =
      (match s.failures.lookup .worksheet, (s.book id).sheets.lookup sheet with
        | some e, _ => .error e
        | none, none => .error (.worksheetNotFound sheet)
        | none, some _ => .ok (), { s with calls := .worksheet sheet :: s.calls }) := by
  rw [worksheet, Action.bind_apply, call_apply]
  cases hfailure : s.failures.lookup .worksheet with
  | some e => simp only [Call.method, hfailure]
  | none =>
    have hbook : ({ s with calls := .worksheet sheet :: s.calls } : Service).book id = s.book id :=
      rfl
    simp only [Call.method, hfailure, Action.bind_apply, Action.state_apply, hbook]
    cases (s.book id).sheets.lookup sheet with
    | none => rfl
    | some _ => rfl

/-- Reading a cell only makes a call. -/
theorem readCell_apply (id : BookId) (sheet : String) (s : Service) :
    readCell id sheet s =
      (match s.failures.lookup .readCell with
        | some e => .error e
        | none => .ok (((s.book id).sheets.lookup sheet).getD none),
        { s with calls := .readCell sheet "A1" :: s.calls }) := by
  rw [readCell, Action.bind_apply, call_apply]
  cases hfailure : s.failures.lookup .readCell with
  | some e => simp only [Call.method, hfailure]
  | none =>
    simp only [Call.method, hfailure]
    rfl

/-- The service with a text in a worksheet. -/
def putSheet (s : Service) (id : BookId) (sheet : String) (value : Option String) : Service :=
  { s with books := s.books.modify id (·.put sheet value) }

theorem length_putSheet (s : Service) (id : BookId) (sheet : String) (value : Option String) :
    (s.putSheet id sheet value).books.length = s.books.length :=
  List.length_modify _ _ _

/-- Only the worksheet that is put has another text. -/
theorem lookup_putSheet (s : Service) {id : BookId} (hid : id < s.books.length)
    (sheet other : String) (value : Option String) :
    ((s.putSheet id sheet value).book id).sheets.lookup other =
      if other == sheet then some value else (s.book id).sheets.lookup other := by
  have hbook : (s.putSheet id sheet value).book id = (s.book id).put sheet value := by
    unfold book putSheet
    rw [List.getElem?_modify_eq, List.getElem?_eq_getElem hid]
    rfl
  rw [hbook, Book.put, lookup_putKey]

theorem addWorksheet_apply (id : BookId) (sheet : String) (s : Service) :
    addWorksheet id sheet s =
      let t : Service := { s with calls := .addWorksheet sheet 1 1 :: s.calls }
      match s.failures.lookup .addWorksheet with
      | some e => (.error e, t)
      | none => (.ok (), t.putSheet id sheet none) := by
  rw [addWorksheet, Action.bind_apply, call_apply]
  cases hfailure : s.failures.lookup .addWorksheet with
  | some e => simp only [Call.method, hfailure]
  | none =>
    simp only [Call.method, hfailure]
    rfl

theorem update_apply (id : BookId) (sheet payload : String) (s : Service) :
    update id sheet payload s =
      let t : Service := { s with calls := .update sheet 1 1 payload.length "A1" true :: s.calls }
      match s.failures.lookup .update with
      | some e => (.error e, t)
      | none => (.ok (), t.putSheet id sheet (some payload)) := by
  rw [update, Action.bind_apply, call_apply]
  cases hfailure : s.failures.lookup .update with
  | some e => simp only [Call.method, hfailure]
  | none =>
    simp only [Call.method, hfailure]
    rfl

end Service

namespace Sheets

open Service (Answers RefusesOnly)

variable {sheets : Sheets} {s t : Service} {key payload : String} {refusals : List Refusal}

/-- What is under a key: the text of the key's worksheet, if there is one and it is not empty. -/
def value (sheets : Sheets) (s : Service) (key : String) : Option String :=
  nonempty (((s.book sheets.book).sheets.lookup key).getD none)

/-- What a text is read with: the key's worksheet is found, and then its cell is read. -/
def fetch (sheets : Sheets) (key : String) : Action ServiceError Service (Option String) := do
  Service.worksheet sheets.book key
  Service.readCell sheets.book key

theorem get_apply (sheets : Sheets) (key : String) (s : Service) :
    sheets.get key s =
      (match (sheets.fetch key s).1 with
        | .ok value => .ok (nonempty value)
        | .error (.worksheetNotFound _) => .ok none
        | .error e => .error (report (.readFailed key) e), (sheets.fetch key s).2) := by
  show (Action.attempt (sheets.fetch key) >>= _) s = _
  rw [Action.bind_apply, Action.attempt_apply]
  rcases sheets.fetch key s with ⟨e | value, t⟩
  · cases e <;> rfl
  · rfl

theorem fetch_apply (sheets : Sheets) (key : String) (s : Service) :
    sheets.fetch key s =
      let t : Service := { s with calls := .worksheet key :: s.calls }
      match s.failures.lookup .worksheet, (s.book sheets.book).sheets.lookup key with
      | some e, _ => (.error e, t)
      | none, none => (.error (.worksheetNotFound key), t)
      | none, some value =>
        (match s.failures.lookup .readCell with
          | some e => .error e
          | none => .ok value, { t with calls := .readCell key "A1" :: t.calls }) := by
  rw [fetch, Action.bind_apply, Service.worksheet_apply]
  cases s.failures.lookup .worksheet with
  | some e => rfl
  | none =>
    cases hvalue : (s.book sheets.book).sheets.lookup key with
    | none => rfl
    | some value =>
      have hbook : ∀ calls, ({ s with calls := calls } : Service).book sheets.book
          = s.book sheets.book := fun _ => rfl
      simp only [Service.readCell_apply, hbook, hvalue]
      rfl

/-- Reading a text leaves the service as it is, but for the calls. -/
theorem exists_get_snd (sheets : Sheets) (key : String) (s : Service) :
    ∃ calls, (sheets.get key s).2 = { s with calls := calls } := by
  rw [get_apply, fetch_apply]
  cases s.failures.lookup .worksheet with
  | some e => exact ⟨_, rfl⟩
  | none =>
    cases (s.book sheets.book).sheets.lookup key with
    | none => exact ⟨_, rfl⟩
    | some value => exact ⟨_, rfl⟩

/-- The answer does not depend on the calls before. -/
theorem get_calls (sheets : Sheets) (key : String) (s : Service) (calls : List Call) :
    (sheets.get key { s with calls := calls }).1 = (sheets.get key s).1 := by
  have hbook : ({ s with calls := calls } : Service).book sheets.book = s.book sheets.book := rfl
  rw [get_apply, get_apply, fetch_apply, fetch_apply, hbook]
  cases s.failures.lookup .worksheet with
  | some e => rfl
  | none =>
    cases (s.book sheets.book).sheets.lookup key with
    | none => rfl
    | some value => rfl

/-- A text that is read is the one under the key, and reading fails only by a refusal. -/
theorem get_cases (h : s.RefusesOnly refusals) :
    (sheets.get key s).1 = .ok (sheets.value s key) ∨
    ∃ r ∈ refusals, r.method ∈ [.worksheet, .readCell] ∧
      (sheets.get key s).1 = .error (.persistence (.readFailed key r.error.message)) := by
  rw [get_apply, fetch_apply, value]
  cases hworksheet : s.failures.lookup .worksheet with
  | some e =>
    obtain ⟨r, hr, hmethod, rfl⟩ := h _ _ hworksheet
    exact .inr ⟨r, hr, by rw [hmethod]; decide, rfl⟩
  | none =>
    cases (s.book sheets.book).sheets.lookup key with
    | none => exact .inl rfl
    | some text =>
      cases hread : s.failures.lookup .readCell with
      | none => exact .inl rfl
      | some e =>
        obtain ⟨r, hr, hmethod, rfl⟩ := h _ _ hread
        exact .inr ⟨r, hr, by rw [hmethod]; decide, rfl⟩

/-- A service that answers gives the text of the key's worksheet. -/
theorem get_of_answers (sheets : Sheets) (key : String) (h : s.Answers) :
    (sheets.get key s).1
      = .ok (nonempty (((s.book sheets.book).sheets.lookup key).getD none)) := by
  rcases get_cases h.refusesOnly with hget | ⟨r, hr, _⟩
  · exact hget
  · exact absurd hr List.not_mem_nil

/-- What looking for the worksheet of a key leaves of a service, or adding it: one empty worksheet
more at most. -/
structure Ensured (book : BookId) (key : String) (s t : Service) : Prop where
  failures : t.failures = s.failures
  length : t.books.length = s.books.length
  lookup : ∀ other, (t.book book).sheets.lookup other = (s.book book).sheets.lookup other ∨
    (other = key ∧ (s.book book).sheets.lookup other = none ∧
      (t.book book).sheets.lookup other = some none)

/-- An empty worksheet is as good as none. -/
theorem Ensured.value (h : Ensured sheets.book key s t) (other : String) :
    sheets.value t other = sheets.value s other := by
  unfold Sheets.value
  rcases h.lookup other with hlookup | ⟨-, hnone, hempty⟩
  · rw [hlookup]
  · rw [hnone, hempty]
    rfl

theorem ensured_calls (book : BookId) (key : String) (s : Service) (calls : List Call) :
    Ensured book key s { s with calls := calls } :=
  ⟨rfl, rfl, fun _ => .inl rfl⟩

theorem ensured_putSheet {book : BookId} (hbook : book < s.books.length)
    (hlookup : (s.book book).sheets.lookup key = none) (calls : List Call) :
    Ensured book key s (({ s with calls := calls } : Service).putSheet book key none) := by
  refine ⟨rfl, Service.length_putSheet _ _ _ _, fun other => ?_⟩
  have hput := ({ s with calls := calls } : Service).lookup_putSheet hbook key other none
  by_cases hother : other = key
  · rw [if_pos (beq_iff_eq.mpr hother)] at hput
    exact .inr ⟨hother, hother ▸ hlookup, hput⟩
  · rw [if_neg (mt beq_iff_eq.mp hother)] at hput
    exact .inl hput

/-- The worksheet of a key is found or added, or that is refused. -/
theorem ensureWorksheet_cases (h : s.RefusesOnly refusals) (hbook : sheets.book < s.books.length)
    (key : String) :
    ∃ t, Ensured sheets.book key s t ∧
      (sheets.ensureWorksheet key s = (.ok (), t) ∨
      ∃ r ∈ refusals, r.method ∈ [.worksheet, .addWorksheet] ∧
        sheets.ensureWorksheet key s = (.error r.error, t)) := by
  rw [ensureWorksheet, Action.bind_apply, Action.attempt_apply, Service.worksheet_apply]
  cases hworksheet : s.failures.lookup .worksheet with
  | some e =>
    obtain ⟨r, hr, hmethod, rfl⟩ := h _ _ hworksheet
    exact ⟨_, ensured_calls _ key s _, .inr ⟨r, hr, by rw [hmethod]; decide, rfl⟩⟩
  | none =>
    cases hlookup : (s.book sheets.book).sheets.lookup key with
    | some text => exact ⟨_, ensured_calls _ key s _, .inl rfl⟩
    | none =>
      simp only [Service.addWorksheet_apply]
      cases hadd : s.failures.lookup .addWorksheet with
      | some e =>
        obtain ⟨r, hr, hmethod, rfl⟩ := h _ _ hadd
        exact ⟨_, ensured_calls _ key s _, .inr ⟨r, hr, by rw [hmethod]; decide, rfl⟩⟩
      | none => exact ⟨_, ensured_putSheet hbook hlookup _, .inl rfl⟩

/-- What setting a text leaves of a service: the same books, with the text under its key. -/
structure Sets (book : BookId) (key payload : String) (s t : Service) : Prop where
  failures : t.failures = s.failures
  length : t.books.length = s.books.length
  lookup : ∀ other, (t.book book).sheets.lookup other =
    if other == key then some (some payload) else (s.book book).sheets.lookup other

/-- A text that is too long is refused without a call. -/
theorem set_of_tooLarge (h : maxCellChars < payload.length) :
    sheets.set key payload s = (.error (.persistence (.tooLarge key payload.length)), s) := by
  unfold set
  rw [if_pos h]
  rfl

/-- A text that fits is set, or that is refused. -/
theorem set_cases (h : s.RefusesOnly refusals) (hbook : sheets.book < s.books.length)
    (key : String) (hsize : payload.length ≤ maxCellChars) :
    (∃ t, sheets.set key payload s = (.ok (), t) ∧ Sets sheets.book key payload s t) ∨
    ∃ t, ∃ r ∈ refusals, r.method ∈ [.worksheet, .addWorksheet, .update] ∧
      Ensured sheets.book key s t ∧
      sheets.set key payload s = (.error (.persistence (.writeFailed key r.error.message)), t) := by
  unfold set
  rw [if_neg (Nat.not_lt.mpr hsize), Action.mapError_apply]
  obtain ⟨t, hensured, hensure | ⟨r, hr, hmethod, hensure⟩⟩ := ensureWorksheet_cases h hbook key
  · rw [Action.bind_apply_ok hensure, Service.update_apply]
    cases hupdate : t.failures.lookup .update with
    | none =>
      refine .inl ⟨_, rfl, hensured.failures,
        (Service.length_putSheet _ _ _ _).trans hensured.length, fun other => ?_⟩
      refine (Service.lookup_putSheet _ ?_ key other (some payload)).trans ?_
      · exact hensured.length ▸ hbook
      by_cases hother : other = key
      · rw [if_pos (beq_iff_eq.mpr hother), if_pos (beq_iff_eq.mpr hother)]
      · rw [if_neg (mt beq_iff_eq.mp hother), if_neg (mt beq_iff_eq.mp hother)]
        exact (hensured.lookup other).resolve_right fun hadded => hother hadded.1
    | some e =>
      obtain ⟨r, hr, hmethod, rfl⟩ := h.of_failures hensured.failures _ _ hupdate
      refine .inr ⟨_, r, hr, by rw [hmethod]; decide, ?_, rfl⟩
      exact ⟨hensured.failures, hensured.length, hensured.lookup⟩
  · rw [Action.bind_apply_error hensure]
    refine .inr ⟨t, r, hr, ?_, hensured, rfl⟩
    exact List.mem_append_left [.update] hmethod

/-- A text that fits is set, and one that does not is refused without a call. -/
theorem set_of_answers (sheets : Sheets) (key payload : String) (h : s.Answers)
    (hbook : sheets.book < s.books.length) :
    (∃ e, sheets.set key payload s = (.error e, s)) ∨
    ∃ t, sheets.set key payload s = (.ok (), t) ∧ Sets sheets.book key payload s t := by
  by_cases hsize : payload.length ≤ maxCellChars
  · rcases set_cases h.refusesOnly hbook key hsize with hset | ⟨t, r, hr, _⟩
    · exact .inr hset
    · exact absurd hr List.not_mem_nil
  · exact .inl ⟨_, set_of_tooLarge (Nat.lt_of_not_le hsize)⟩

end Sheets

end Spreadsheet.Store

import Spreadsheet.Proofs.Store.Sheets

/-!
A store of worksheets whose calls may be refused.

A `Refusal` is a call that the service refuses, and an `Attempt` is a request made while some calls
are refused.  A request calls each of its methods at most once (`Sheets.exists_calls_perform`), so
that refusing methods is refusing calls.  What is under a key (`Sheets.value`) changes only when a
text is set with success (`Sheets.value_step`), and the worksheet that a failed set may leave behind
is as good as none.  Hence after any attempts the store is the map of the texts that were set
(`Sheets.value_run`), and `Sheets.serves_as_map` says what each request makes of that.
-/

namespace Spreadsheet.Store

namespace Service

/-- The service as it is, with these calls refused and no others. -/
def refusing (s : Service) (refusals : List Refusal) : Service :=
  { s with failures := refusals.map fun r => (r.method, r.error) }

theorem refusesOnly_refusing (s : Service) (refusals : List Refusal) :
    (s.refusing refusals).RefusesOnly refusals := by
  intro m e h
  obtain ⟨before, after, hsplit, _⟩ := List.lookup_eq_some_iff.mp h
  have hmem : (m, e) ∈ (s.refusing refusals).failures := by
    rw [hsplit]
    exact List.mem_append_right before List.mem_cons_self
  obtain ⟨r, hr, heq⟩ := List.mem_map.mp hmem
  cases heq
  exact ⟨r, hr, rfl, rfl⟩

end Service

/-- What can be asked of a store. -/
inductive Request where
  | get (key : String)
  | set (key payload : String)
deriving DecidableEq, Repr

/-- The methods that a request may call, in the order of its calls. -/
def Request.methods : Request → List Method
  | .get _ => [.worksheet, .readCell]
  | .set _ _ => [.worksheet, .addWorksheet, .update]

/-- A request that is made while calls are refused. -/
structure Attempt where
  refusals : List Refusal
  request : Request
deriving DecidableEq, Repr

namespace Sheets

open Service (RefusesOnly refusesOnly_refusing)

variable {sheets : Sheets} {s t : Service} {key payload : String} {refusals : List Refusal}

/-- Makes a request, whatever its answer. -/
def perform (sheets : Sheets) (s : Service) : Request → Service
  | .get key => (sheets.get key s).2
  | .set key payload => (sheets.set key payload s).2

/-- The service after an attempt. -/
def step (sheets : Sheets) (s : Service) (a : Attempt) : Service :=
  sheets.perform (s.refusing a.refusals) a.request

/-- The service after attempts one after the other. -/
def run (sheets : Sheets) (s : Service) (attempts : List Attempt) : Service :=
  attempts.foldl sheets.step s

/-- The text that an attempt sets with success, with its key. -/
def saved? (sheets : Sheets) (s : Service) (a : Attempt) : Option (String × String) :=
  match a.request with
  | .get _ => none
  | .set key payload =>
    match (sheets.set key payload (s.refusing a.refusals)).1 with
    | .ok _ => some (key, payload)
    | .error _ => none

/-- What attempts set with success, the last text first. -/
def saves (sheets : Sheets) : Service → List Attempt → List (String × String)
  | _, [] => []
  | s, a :: attempts => sheets.saves (sheets.step s a) attempts ++ (sheets.saved? s a).toList

/-- What a map holds under a key after it was written: the first text in the list with this key, the
empty one as nothing, or what the map held before. -/
def lastSaved (saves : List (String × String)) (start : String → Option String) (key : String) :
    Option String :=
  match saves.lookup key with
  | some payload => nonempty (some payload)
  | none => start key

theorem lastSaved_append (saves earlier : List (String × String))
    (start : String → Option String) (key : String) :
    lastSaved (saves ++ earlier) start key = lastSaved saves (lastSaved earlier start) key := by
  unfold lastSaved
  rw [List.lookup_append]
  cases saves.lookup key with
  | none => rfl
  | some _ => rfl

theorem lastSaved_singleton (key payload other : String) (start : String → Option String) :
    lastSaved [(key, payload)] start other =
      if other = key then nonempty (some payload) else start other := by
  unfold lastSaved
  rw [List.lookup_cons]
  by_cases h : other = key
  · rw [if_pos h, beq_iff_eq.mpr h]
  · rw [if_neg h, beq_false_of_ne h]
    rfl

/-- The map that is left when a text was set. -/
theorem Sets.value (h : Sets sheets.book key payload s t) (other : String) :
    sheets.value t other = lastSaved [(key, payload)] (sheets.value s) other := by
  rw [lastSaved_singleton, Sheets.value, h.lookup]
  by_cases hother : other = key
  · rw [if_pos (beq_iff_eq.mpr hother), if_pos hother]
    rfl
  · rw [if_neg (mt beq_iff_eq.mp hother), if_neg hother]
    rfl

end Sheets

/-! ### The calls of a request -/

/-- The action calls some of these methods, each one as often as it is listed at most and in this
order. -/
def Makes {ε α : Type} (x : Action ε Service α) (methods : List Method) : Prop :=
  ∀ s, ∃ made : List Call, (x s).2.calls = made.reverse ++ s.calls ∧
    (made.map Call.method).Sublist methods

namespace Makes

variable {ε ε' α β : Type} {x : Action ε Service α} {f : α → Action ε Service β}
  {methods methods' : List Method}

theorem none (h : ∀ s, (x s).2.calls = s.calls) : Makes x methods :=
  fun s => ⟨[], h s, List.nil_sublist methods⟩

theorem bind (hx : Makes x methods) (hf : ∀ a, Makes (f a) methods') :
    Makes (x >>= f) (methods ++ methods') := by
  intro s
  obtain ⟨made, hcalls, hmade⟩ := hx s
  rw [Action.bind_apply]
  rcases hrun : x s with ⟨e | a, t⟩
  · rw [hrun] at hcalls
    exact ⟨made, hcalls, hmade.trans (List.sublist_append_left methods methods')⟩
  · rw [hrun] at hcalls
    obtain ⟨made', hcalls', hmade'⟩ := hf a t
    refine ⟨made ++ made', ?_, ?_⟩
    · rw [hcalls', hcalls, List.reverse_append, List.append_assoc]
    · rw [List.map_append]
      exact hmade.append hmade'

theorem attempt (hx : Makes x methods) :
    Makes (Action.attempt x : Action ε' Service (Except ε α)) methods :=
  hx

theorem mapError (hx : Makes x methods) (wrap : ε → ε') :
    Makes (Action.mapError wrap x) methods :=
  hx

theorem call (c : Call) : Makes (Service.call c) [c.method] := by
  intro s
  rw [Service.call_apply]
  exact ⟨[c], rfl, List.Sublist.refl _⟩

theorem worksheet (id : BookId) (sheet : String) :
    Makes (Service.worksheet id sheet) [.worksheet] := by
  intro s
  rw [Service.worksheet_apply]
  exact ⟨[.worksheet sheet], rfl, List.Sublist.refl _⟩

theorem readCell (id : BookId) (sheet : String) :
    Makes (Service.readCell id sheet) [.readCell] := by
  intro s
  rw [Service.readCell_apply]
  exact ⟨[.readCell sheet "A1"], rfl, List.Sublist.refl _⟩

theorem addWorksheet (id : BookId) (sheet : String) :
    Makes (Service.addWorksheet id sheet) [.addWorksheet] :=
  (call _).bind fun _ => none fun _ => rfl

theorem update (id : BookId) (sheet payload : String) :
    Makes (Service.update id sheet payload) [.update] :=
  (call _).bind fun _ => none fun _ => rfl

end Makes

namespace Sheets

open Service (RefusesOnly refusesOnly_refusing)

/-- A request calls some of its methods, each once at most and in their order. -/
theorem exists_calls_perform (sheets : Sheets) (s : Service) (request : Request) :
    ∃ made : List Call, (sheets.perform s request).calls = made.reverse ++ s.calls ∧
      (made.map Call.method).Sublist request.methods := by
  cases request with
  | get key =>
    have hfetch : Makes (sheets.fetch key) [.worksheet, .readCell] :=
      (Makes.worksheet _ _).bind fun _ => Makes.readCell _ _
    obtain ⟨made, hcalls, hmade⟩ := hfetch s
    refine ⟨made, ?_, hmade⟩
    rw [perform, get_apply]
    exact hcalls
  | set key payload =>
    have hensure : Makes (sheets.ensureWorksheet key) [.worksheet, .addWorksheet] := by
      refine (Makes.worksheet _ _).attempt.bind fun found => ?_
      match found with
      | .ok _ => exact Makes.none fun _ => rfl
      | .error (.worksheetNotFound _) => exact Makes.addWorksheet _ _
      | .error (.api _ _) => exact Makes.none fun _ => rfl
      | .error (.bookNotFound _) => exact Makes.none fun _ => rfl
      | .error (.connection _) => exact Makes.none fun _ => rfl
    have hset : Makes (sheets.set key payload) [.worksheet, .addWorksheet, .update] := by
      unfold set
      split
      · exact Makes.none fun _ => rfl
      · exact (hensure.bind fun _ => Makes.update _ _ _).mapError _
    exact hset s

/-! ### Runs of attempts -/

variable {sheets : Sheets} {s : Service} {refusals : List Refusal}

/-- An attempt changes what is under a key by setting a text with success, and only so. -/
theorem value_step (hbook : sheets.book < s.books.length) (a : Attempt) :
    (sheets.step s a).books.length = s.books.length ∧
      ∀ key, sheets.value (sheets.step s a) key =
        lastSaved (sheets.saved? s a).toList (sheets.value s) key := by
  obtain ⟨refusals, key | ⟨key, payload⟩⟩ := a
  · obtain ⟨calls, hget⟩ := sheets.exists_get_snd key (s.refusing refusals)
    unfold step perform
    dsimp only
    rw [hget]
    exact ⟨rfl, fun _ => rfl⟩
  · unfold step perform saved?
    dsimp only
    by_cases hsize : payload.length ≤ maxCellChars
    · rcases set_cases (s.refusesOnly_refusing refusals) hbook key hsize with
        ⟨t, hset, hsets⟩ | ⟨t, _, _, _, hensured, hset⟩
      · rw [hset]
        exact ⟨hsets.length, hsets.value⟩
      · rw [hset]
        exact ⟨hensured.length, hensured.value⟩
    · rw [set_of_tooLarge (Nat.lt_of_not_le hsize)]
      exact ⟨rfl, fun _ => rfl⟩

/-- After any attempts the store is the map of the texts that were set. -/
theorem value_run (hbook : sheets.book < s.books.length) (attempts : List Attempt) :
    (sheets.run s attempts).books.length = s.books.length ∧
      ∀ key, sheets.value (sheets.run s attempts) key =
        lastSaved (sheets.saves s attempts) (sheets.value s) key := by
  induction attempts generalizing s with
  | nil => exact ⟨rfl, fun _ => rfl⟩
  | cons a attempts ih =>
    obtain ⟨hlength, hvalue⟩ := value_step hbook a
    obtain ⟨hlength', hvalue'⟩ := ih (s := sheets.step s a) (hlength ▸ hbook)
    refine ⟨hlength'.trans hlength, fun key => ?_⟩
    rw [saves, lastSaved_append, ← funext hvalue]
    exact hvalue' key

/-- **The store is a map, whatever is refused.**  At any time, after any requests of which any calls
were refused, a text that is read is the one that was last set with success under its key, or what
was there at first, and nothing if it is empty.  Reading and setting fail only if one of their own
calls is refused, or for a text that is too long, always with a report of persistence.  A text that
cannot be set changes nothing under any key, and for one that is too long no call is made.  Else a
request calls each of its methods once at most, so that refusing methods is refusing calls. -/
theorem serves_as_map (sheets : Sheets) (s : Service) (hbook : sheets.book < s.books.length)
    (attempts : List Attempt) (refusals : List Refusal) :
    let t := (sheets.run s attempts).refusing refusals
    (∀ request : Request, ∃ made : List Call,
      (sheets.perform t request).calls = made.reverse ++ t.calls ∧
        (made.map Call.method).Sublist request.methods) ∧
    (∀ key,
      (sheets.get key t).1 = .ok (lastSaved (sheets.saves s attempts) (sheets.value s) key) ∨
      ∃ r ∈ refusals, r.method ∈ (Request.get key).methods ∧
        (sheets.get key t).1 = .error (.persistence (.readFailed key r.error.message))) ∧
    ∀ key payload,
      (payload.length ≤ maxCellChars →
        (sheets.set key payload t).1 = .ok () ∨
        ∃ r ∈ refusals, r.method ∈ (Request.set key payload).methods ∧
          (sheets.set key payload t).1 =
            .error (.persistence (.writeFailed key r.error.message))) ∧
      (maxCellChars < payload.length →
        sheets.set key payload t = (.error (.persistence (.tooLarge key payload.length)), t)) ∧
      ((sheets.set key payload t).1 ≠ .ok () →
        ∀ other, sheets.value (sheets.set key payload t).2 other = sheets.value t other) := by
  intro t
  have hrefuses : t.RefusesOnly refusals := refusesOnly_refusing _ refusals
  obtain ⟨hlength, hvalue⟩ := value_run hbook attempts
  have hbook' : sheets.book < t.books.length := hlength ▸ hbook
  refine ⟨sheets.exists_calls_perform t, fun key => ?_,
    fun key payload => ⟨fun hsize => ?_, set_of_tooLarge, fun hfails => ?_⟩⟩
  · rw [← hvalue key]
    exact get_cases hrefuses
  · rcases set_cases hrefuses hbook' key hsize with
      ⟨u, hset, _⟩ | ⟨u, r, hr, hmethod, _, hset⟩
    · exact .inl (congrArg Prod.fst hset)
    · exact .inr ⟨r, hr, hmethod, congrArg Prod.fst hset⟩
  · by_cases hsize : payload.length ≤ maxCellChars
    · rcases set_cases hrefuses hbook' key hsize with
        ⟨u, hset, _⟩ | ⟨u, _, _, _, hensured, hset⟩
      · exact absurd (congrArg Prod.fst hset) hfails
      · rw [hset]
        exact hensured.value
    · rw [set_of_tooLarge (Nat.lt_of_not_le hsize)]
      exact fun _ => rfl

/-- A service with a book of two worksheets, one of them empty. -/
def ledger : Service where
  books := [{ title := "cellgrid", sheets := [("i", some "old"), ("j", some "")] }]

/-- A refusal to write into a worksheet. -/
def overQuota : Refusal :=
  ⟨.update, 429, "Quota exceeded"⟩

/-- A text is set under a new key, and then twice under an old one; the first and the last time the
worksheet cannot be written. -/
def quotaAttempts : List Attempt :=
  [⟨[overQuota], .set "k" "a"⟩, ⟨[], .set "i" "b"⟩, ⟨[overQuota], .set "i" "c"⟩]

/-- The first attempt has left an empty worksheet, where nothing is found, like in the one that was
empty before.  Under the old key there is the text that could be set. -/
theorem serves_as_map_overQuota :
    let t := ((⟨0⟩ : Sheets).run ledger quotaAttempts).refusing [overQuota]
    let long := String.ofList (List.replicate (maxCellChars + 1) 'x')
    (t.book 0).sheets.lookup "k" = some none ∧
      (get ⟨0⟩ "k" t).1 = .ok none ∧ (get ⟨0⟩ "j" t).1 = .ok none ∧
      (get ⟨0⟩ "i" t).1 = .ok (some "b") ∧
      (set ⟨0⟩ "i" "d" t).1 = .error (.persistence (.writeFailed "i" overQuota.error.message)) ∧
      value ⟨0⟩ (set ⟨0⟩ "i" "d" t).2 "i" = some "b" ∧
      set ⟨0⟩ "i" long t = (.error (.persistence (.tooLarge "i" (maxCellChars + 1))), t) := by
  intro t long
  have hlong : long.length = maxCellChars + 1 := by
    rw [String.length_ofList, List.length_replicate]
  obtain ⟨-, hget, hset⟩ :=
    serves_as_map ⟨0⟩ ledger Nat.one_pos quotaAttempts [overQuota]
  -- No call that reads is refused.
  have hreads : ∀ key, (get ⟨0⟩ key t).1 =
      .ok (lastSaved (saves ⟨0⟩ ledger quotaAttempts) (value ⟨0⟩ ledger) key) := by
    intro key
    rcases hget key with hok | ⟨r, hr, hmethod, _⟩
    · exact hok
    · rw [List.mem_singleton.mp hr] at hmethod
      have hupdate : overQuota.method ∉ [.worksheet, .readCell] := by decide
      exact absurd hmethod hupdate
  refine ⟨rfl, hreads "k", hreads "j", hreads "i", rfl, ?_, ?_⟩
  · exact (hset "i" "d").2.2 nofun "i"
  · rw [← hlong]
    exact (hset "i" long).2.1 (hlong ▸ Nat.lt_succ_self _)

end Sheets

end Spreadsheet.Store

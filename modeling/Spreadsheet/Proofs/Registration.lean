import Mathlib.Data.List.Induction
import Spreadsheet.Proofs.Dispatch

/-!
What a formula calls after some registrations.

A registry grows by calls that register a reducer under a name; a call with a text that is no name
changes nothing.  What a name stands for in the end is the reducer of the last call that gave it one
(`Registry.lookup_run`), and the reducer that a formula calls depends on nothing else
(`Registry.called?_congr`).  No name holds a bracket, in upper case either
(`Text.not_mem_uppercase`), so a name that a bracket follows is called whatever other names there
are.
-/

namespace Spreadsheet

/-! ### Brackets -/

namespace Text

theorem eq_of_ofNat_eq_bracket {n : Nat} (h : Char.ofNat n = '(') : n = '('.toNat := by
  by_cases hvalid : n.isValidChar
  · have hchar : Char.ofNat n = Char.ofNatAux n hvalid := dif_pos hvalid
    rw [← h, hchar]
    rfl
  · -- What is no code stands for the character of code 0.
    have hchar : Char.ofNat n = '\x00' := dif_neg hvalid
    rw [hchar] at h
    exact absurd h (by decide)

/-- No letter or number has a bracket in its upper case. -/
theorem not_mem_uppercaseChar {c : Char} (h : isAlphanumeric c = true) :
    '(' ∉ uppercaseChar c := by
  have hne : c ≠ '(' := by
    rintro rfl
    exact absurd h (by decide)
  rw [uppercaseChar]
  split
  · next hsmall =>
    -- In ASCII no other character becomes a bracket.
    have hascii : ∀ n < 0x80, (Char.ofNat n).toUpper = '(' → Char.ofNat n = '(' := by decide
    have hc := hascii c.toNat hsmall
    rw [Char.ofNat_toNat] at hc
    rw [List.mem_singleton]
    exact fun heq => hne (hc heq.symm)
  · split
    · next image hlookup =>
      have himages : ∀ entry ∈ expansions, '('.toNat ∉ entry.2 := by decide
      obtain ⟨before, after, hentries, _⟩ := List.lookup_eq_some_iff.mp hlookup
      have hentry : (c.toNat, image) ∈ expansions := by
        rw [hentries]
        exact List.mem_append_right before List.mem_cons_self
      rw [List.mem_map]
      rintro ⟨n, hn, heq⟩
      exact himages _ hentry (eq_of_ofNat_eq_bracket heq ▸ hn)
    · split
      · next run hrun =>
        have himages : ∀ run ∈ uppercaseRuns, '('.toNat < run.image := by decide +kernel
        have hlt := himages run (List.mem_of_find?_eq_some hrun)
        rw [List.mem_singleton]
        intro heq
        have hcode := eq_of_ofNat_eq_bracket heq.symm
        omega
      · rw [List.mem_singleton]
        exact hne.symm

/-- In upper case there is no bracket in letters and numbers. -/
theorem not_mem_uppercase {s : String} (h : s.toList.all isAlphanumeric = true) :
    '(' ∉ (uppercase s).toList := by
  rw [uppercase, String.toList_ofList, List.mem_flatMap]
  rintro ⟨c, hc, hmem⟩
  exact not_mem_uppercaseChar (List.all_eq_true.mp h c hc) hmem

end Text

namespace Formula.Registry

variable {r r' : Registry} {name : String} {reducer : Reducer}

/-! ### Registrations -/

/-- A call to register a reducer under a name. -/
abbrev Attempt := String × Reducer

/-- The registry after a call; one that is refused changes nothing. -/
def step (r : Registry) (attempt : Attempt) : Registry :=
  match r.register attempt.1 attempt.2 with
  | .ok r' => r'
  | .error _ => r

/-- The registry after some calls. -/
def run (r : Registry) (attempts : List Attempt) : Registry :=
  attempts.foldl step r

/-- The call is accepted, and what it registers is kept under this name. -/
def Gives (attempt : Attempt) (name : String) : Prop :=
  IsName attempt.1 ∧ Text.uppercase attempt.1 = name

instance (attempt : Attempt) (name : String) : Decidable (Gives attempt name) :=
  inferInstanceAs (Decidable (_ ∧ _))

/-- The reducer that the last of some calls gave a name. -/
def lastGiven? (attempts : List Attempt) (name : String) : Option Reducer :=
  (attempts.reverse.find? fun attempt => Gives attempt name).map Prod.snd

/-- What a name stands for after some calls on a new registry: what it was given last, or else what
is built in. -/
def meaning? (attempts : List Attempt) (name : String) : Option Reducer :=
  (lastGiven? attempts name).or (standard.entries.lookup name)

theorem lastGiven?_concat (attempts : List Attempt) (attempt : Attempt) (name : String) :
    lastGiven? (attempts ++ [attempt]) name =
      if Gives attempt name then some attempt.2 else lastGiven? attempts name := by
  rw [lastGiven?, List.reverse_append, List.reverse_singleton, List.singleton_append,
    List.find?_cons]
  by_cases h : Gives attempt name
  · simp [h]
  · simp [h, lastGiven?]

/-- A call changes what is found under the name that it gives, and nothing else. -/
theorem lookup_step (r : Registry) (attempt : Attempt) (name : String) :
    (r.step attempt).entries.lookup name =
      if Gives attempt name then some attempt.2 else r.entries.lookup name := by
  rw [step, register]
  by_cases hname : IsName attempt.1
  · rw [if_pos hname]
    dsimp only
    rw [lookup_put]
    by_cases h : name = Text.uppercase attempt.1
    · rw [if_pos h, if_pos ⟨hname, h.symm⟩]
    · rw [if_neg h, if_neg fun hgives : Gives attempt name => h hgives.2.symm]
  · rw [if_neg hname, if_neg fun hgives : Gives attempt name => hname hgives.1]

/-- What is found under a name after some calls is what the last of them gave it. -/
theorem lookup_run (r : Registry) (attempts : List Attempt) (name : String) :
    (r.run attempts).entries.lookup name =
      (lastGiven? attempts name).or (r.entries.lookup name) := by
  induction attempts using List.reverseRecOn with
  | nil => rfl
  | append_singleton attempts attempt ih =>
    rw [run, List.foldl_append, List.foldl_cons, List.foldl_nil, lookup_step, lastGiven?_concat]
    by_cases h : Gives attempt name
    · rw [if_pos h, if_pos h, Option.some_or]
    · rw [if_neg h, if_neg h]
      exact ih

/-! ### Names in use -/

/-- A name is in use exactly if something is found under it. -/
theorem mem_names_iff (r : Registry) (name : String) :
    name ∈ r.names ↔ (r.entries.lookup name).isSome := by
  constructor
  · intro h
    obtain ⟨entry, hentry, rfl⟩ := List.mem_map.mp h
    rw [Option.isSome_iff_ne_none, Ne, List.lookup_eq_none_iff]
    exact fun hnone => absurd (hnone entry hentry) (by simp)
  · intro h
    obtain ⟨reducer, hlookup⟩ := Option.isSome_iff_exists.mp h
    exact mem_names_of_lookup hlookup

/-- No name that is kept holds a bracket. -/
theorem not_mem_of_mem_names (attempts : List Attempt) (h : name ∈ (standard.run attempts).names) :
    '(' ∉ name.toList := by
  rw [mem_names_iff, lookup_run, Option.isSome_or, Bool.or_eq_true] at h
  rcases h with h | h
  · rw [lastGiven?, Option.isSome_map, List.find?_isSome] at h
    obtain ⟨attempt, _, hgives⟩ := h
    obtain ⟨hname, rfl⟩ := of_decide_eq_true hgives
    exact Text.not_mem_uppercase hname.2
  · have hbuiltIn : ∀ name ∈ standard.names, '(' ∉ name.toList := by decide
    exact hbuiltIn name ((mem_names_iff standard name).mpr h)

/-! ### The reducer that is called -/

theorem CallsLongest.of_lookup_eq {formula : String}
    (heq : ∀ name, r.entries.lookup name = r'.entries.lookup name)
    (h : r.CallsLongest formula name reducer) : r'.CallsLongest formula name reducer := by
  refine ⟨h.calls, heq name ▸ h.registered, ?_⟩
  intro other hother hcalls
  rw [mem_names_iff, ← heq, ← mem_names_iff] at hother
  exact h.longest other hother hcalls

/-- What a formula calls depends on what is found under each name, and not on the order. -/
theorem called?_congr (h : ∀ name, r.entries.lookup name = r'.entries.lookup name)
    (formula : String) : r.called? formula = r'.called? formula := by
  refine Option.ext fun entry => ?_
  obtain ⟨name, reducer⟩ := entry
  rw [called?_eq_some_iff, called?_eq_some_iff]
  exact ⟨.of_lookup_eq h, .of_lookup_eq fun name => (h name).symm⟩

/-- A name that a bracket follows is called, if no name in use holds a bracket. -/
theorem callsLongest_of_bracket (hnames : ∀ other ∈ r.names, '(' ∉ other.toList)
    (h : r.entries.lookup name = some reducer) (rest : String) :
    r.CallsLongest ("=" ++ name ++ "(" ++ rest) name reducer := by
  have htext : ("=" ++ name ++ "(" ++ rest).toList =
      ('=' :: name.toList ++ ['(']) ++ rest.toList := by
    simp
  refine ⟨?_, h, ?_⟩
  · rw [Calls, htext, List.append_assoc]
    exact List.prefix_append _ _
  · intro other hother hcalls
    refine Nat.le_of_not_lt ?_
    intro hlt
    -- A longer name would hold the bracket.
    have hlength : ('=' :: name.toList ++ ['(']).length ≤ ('=' :: other.toList).length := by
      simp only [List.length_append, List.length_cons, String.length_toList, List.length_nil]
      omega
    have hstart : '=' :: name.toList ++ ['('] <+: '=' :: other.toList :=
      List.prefix_of_prefix_length_le (htext ▸ List.prefix_append _ _) hcalls hlength
    obtain ⟨more, hmore⟩ := hstart
    have hother' : other.toList = name.toList ++ '(' :: more := by
      rw [List.cons_append, List.cons_append, List.append_assoc] at hmore
      exact (List.cons.inj hmore).2.symm
    refine hnames other hother ?_
    rw [hother']
    exact List.mem_append_right _ List.mem_cons_self

/-- **What a formula calls after any registrations.**  The names in use are those that some call
gave a reducer and those that are built in.  A formula calls nothing exactly if no name in use
stands after its equals sign, and else the longest that does, with the reducer that the name was
given last; a call that was refused does not count.  So two lists of calls that leave every name the
same meaning leave every formula the same reducer, whatever their order.  A name in use is called by
every formula in which a bracket follows it. -/
theorem called?_run (attempts : List Attempt) (formula : String) :
    (∀ name, name ∈ (standard.run attempts).names ↔ (meaning? attempts name).isSome) ∧
    ((standard.run attempts).called? formula = none ↔
      ∀ name ∈ (standard.run attempts).names, ¬Calls formula name) ∧
    (∀ name reducer, (standard.run attempts).called? formula = some (name, reducer) ↔
      Calls formula name ∧ meaning? attempts name = some reducer ∧
        ∀ other ∈ (standard.run attempts).names, Calls formula other → other ≠ name →
          other.length < name.length) ∧
    (∀ attempts', (∀ name, meaning? attempts' name = meaning? attempts name) →
      (standard.run attempts').called? formula = (standard.run attempts).called? formula) ∧
    ∀ name ∈ (standard.run attempts).names, ∀ rest, ∃ reducer,
      meaning? attempts name = some reducer ∧
        (standard.run attempts).called? ("=" ++ name ++ "(" ++ rest) = some (name, reducer) := by
  have hlookup : ∀ attempts name,
      (standard.run attempts).entries.lookup name = meaning? attempts name := lookup_run standard
  refine ⟨?_, called?_eq_none_iff _ formula, ?_, ?_, ?_⟩
  · intro name
    rw [mem_names_iff, hlookup]
  · intro name reducer
    rw [called?_eq_some_iff, ← hlookup]
    constructor
    · intro h
      refine ⟨h.calls, h.registered, ?_⟩
      intro other hother hcalls hne
      have hle := h.longest other hother hcalls
      exact Nat.lt_of_le_of_ne hle fun heq => hne (hcalls.eq_of_length h.calls heq)
    · rintro ⟨hcalls, hregistered, hlonger⟩
      refine ⟨hcalls, hregistered, ?_⟩
      intro other hother hcalls'
      by_cases heq : other = name
      · exact Nat.le_of_eq (by rw [heq])
      · exact Nat.le_of_lt (hlonger other hother hcalls' heq)
  · intro attempts' hsame
    exact called?_congr (fun name => by rw [hlookup, hlookup, hsame]) formula
  · intro name hname rest
    obtain ⟨reducer, hreducer⟩ :=
      Option.isSome_iff_exists.mp ((mem_names_iff _ name).mp hname)
    refine ⟨reducer, by rw [← hlookup, hreducer], (called?_eq_some_iff _ _ _ _).mpr ?_⟩
    exact callsLongest_of_bracket (fun other => not_mem_of_mem_names attempts) hreducer rest

/-- A name that another one begins with, one that is refused, and one that is longer in upper
case. -/
def nestedNames : List Attempt :=
  [("sumsq", .average), ("su m", .average), ("ß", .sum)]

/-- The same in another order, with a reducer that is given up. -/
def nestedNamesAgain : List Attempt :=
  [("SumSQ", .sum), ("ss", .sum), ("SUMSQ", .average)]

theorem gives_iff (text : String) {upper : String} (hname : IsName text)
    (hupper : Text.uppercase text = upper) (reducer : Reducer) (name : String) :
    Gives (text, reducer) name ↔ upper = name := by
  rw [Gives, hupper]
  exact and_iff_right hname

theorem meaning?_nestedNames (name : String) :
    meaning? nestedNamesAgain name = meaning? nestedNames name := by
  have hrefused : ¬Gives ("su m", .average) name := fun h => absurd h.1 (by decide)
  have hsumsq := gives_iff "sumsq" (by decide) (by decide : _ = "SUMSQ") .average name
  have hss := gives_iff "ß" (by decide) (by decide : _ = "SS") .sum name
  have hsumsq' := gives_iff "SUMSQ" (by decide) (by decide : _ = "SUMSQ") .average name
  have hgivenUp := gives_iff "SumSQ" (by decide) (by decide : _ = "SUMSQ") .sum name
  have hss' := gives_iff "ss" (by decide) (by decide : _ = "SS") .sum name
  have hne : "SS" ≠ "SUMSQ" := by decide
  simp only [meaning?, lastGiven?, nestedNames, nestedNamesAgain, List.reverse_cons,
    List.reverse_nil, List.nil_append, List.cons_append, List.find?_cons, hrefused, hsumsq, hss,
    hsumsq', hgivenUp, hss']
  by_cases h : "SUMSQ" = name
  · subst h
    simp [hne]
  · by_cases h' : "SS" = name
    · subst h'
      simp [h]
    · simp [h, h']

/-- One reducer for all orders, and a name that a bracket follows although a shorter one would
do. -/
theorem called?_run_nested :
    (∀ name, meaning? nestedNamesAgain name = meaning? nestedNames name) ∧
      (standard.run nestedNamesAgain).called? "=SUMSQ(A1:A3)" =
        (standard.run nestedNames).called? "=SUMSQ(A1:A3)" ∧
      "SUMSQ" ∈ (standard.run nestedNames).names ∧ "SUM" ∈ (standard.run nestedNames).names ∧
      (standard.run nestedNames).called? "=SUMSQ(A1:A3)" = some ("SUMSQ", .average) := by
  obtain ⟨_, _, _, hsame, hbracket⟩ := called?_run nestedNames "=SUMSQ(A1:A3)"
  have hname : "SUMSQ" ∈ (standard.run nestedNames).names := by decide
  obtain ⟨reducer, hreducer, hcalled⟩ := hbracket "SUMSQ" hname "A1:A3)"
  have hmeaning : meaning? nestedNames "SUMSQ" = some .average := rfl
  rw [hmeaning, Option.some_inj] at hreducer
  subst hreducer
  exact ⟨meaning?_nestedNames, hsame _ meaning?_nestedNames, hname, by decide, hcalled⟩

end Formula.Registry

end Spreadsheet

import Spreadsheet.Json.Reader

/-!
When reading stops for depth.

A reader leaves a part at the end of its text, or stops, and it stops for depth only if there are
more opening brackets in the text than levels are allowed.  `Leaves` says this of an outcome, and
there is one lemma on it for each reader, up to `leaves_readValue`.  `NestsTooDeep.lt_openings` is
what follows for whole texts, and `nestsTooDeep_of_openings` shows that brackets alone are enough.
-/

namespace Spreadsheet.Json

open Number (Numeral)

variable {α β : Type} {n depth : Nat} {cs cs' rest : List Char}

/-- The number of opening brackets and braces. -/
def openings (cs : List Char) : Nat :=
  cs.countP fun c => c == '[' || c == '{'

theorem openings_cons {c : Char} (hc : (c == '[' || c == '{') = true) (cs : List Char) :
    openings (c :: cs) = openings cs + 1 :=
  List.countP_cons_of_pos (p := fun c => c == '[' || c == '{') hc

theorem openings_le (h : rest <:+ cs) : openings rest ≤ openings cs :=
  h.sublist.countP_le

/-- What a reader of `cs` that allows `n` levels may do: it leaves an end of its text, and stops for
depth only if there are brackets for more levels. -/
def Leaves (n : Nat) (cs : List Char) : Except Stop (α × List Char) → Prop
  | .ok (_, rest) => rest <:+ cs
  | .error (.tooDeep _) => n < openings cs
  | .error _ => True

namespace Leaves

/-- What may be done with an end of a text may be done with the text. -/
theorem mono {x : Except Stop (α × List Char)} (h : Leaves n cs x) (hcs : cs <:+ cs') :
    Leaves n cs' x := by
  rcases x with (_ | _ | _) | ⟨a, rest⟩
  · exact trivial
  · exact Nat.lt_of_lt_of_le h (openings_le hcs)
  · exact trivial
  · exact h.trans hcs

theorem bind {x : Except Stop (α × List Char)} {f : α × List Char → Except Stop (β × List Char)}
    (h : Leaves n cs x) (hf : ∀ a rest, Leaves n rest (f (a, rest))) : Leaves n cs (x >>= f) := by
  rcases x with (_ | _ | _) | ⟨a, rest⟩
  · exact trivial
  · exact h
  · exact trivial
  · exact (hf a rest).mono h

theorem map {x : Except Stop (α × List Char)} {f : α → β} (h : Leaves n cs x) :
    Leaves n cs (x.map fun (a, rest) => (f a, rest)) := by
  rcases x with (_ | _ | _) | ⟨a, rest⟩
  · exact trivial
  · exact h
  · exact trivial
  · exact h

end Leaves

theorem skip_suffix (cs : List Char) : skip cs <:+ cs :=
  List.dropWhile_suffix _

/-- What follows the first character that is no padding is an end of the text. -/
theorem suffix_of_skip {c : Char} (h : skip cs = c :: rest) : rest <:+ cs :=
  (List.suffix_cons c rest).trans (h ▸ skip_suffix cs)

theorem leaves_readString (n : Nat) (opening : List Char) (p : Pending) (cs : List Char) :
    Leaves n cs (readString opening p cs) := by
  fun_induction readString opening p cs with
  | case1 => exact trivial
  | case2 p rest => exact List.suffix_cons _ _
  | case3 => exact trivial
  | case4 p a b c d e rest unit hunit ih =>
    exact ih.mono ((List.suffix_append ['\\', 'u', a, b, c, d] (e :: rest)))
  | case5 => exact trivial
  | case6 => exact trivial
  | case7 p c rest _ _ meaning _ ih => exact ih.mono (List.suffix_append ['\\', c] rest)
  | case8 => exact trivial
  | case9 => exact trivial
  | case10 p c rest _ _ _ _ _ _ ih => exact ih.mono (List.suffix_cons c rest)

theorem readSign_suffix (cs : List Char) : (Numeral.readSign cs).2 <:+ cs := by
  unfold Numeral.readSign
  split
  · exact List.suffix_cons _ _
  · exact List.suffix_cons _ _
  · exact List.suffix_rfl

theorem readExponent?_suffix {power : Int} (h : Numeral.readExponent? cs = some (power, rest)) :
    rest <:+ cs := by
  cases cs with
  | nil => cases h
  | cons c tail =>
    have hsign := (readSign_suffix tail).trans (List.suffix_cons c tail)
    unfold Numeral.readExponent? at h
    dsimp only at h
    split at h
    · split at h
      · cases h
      · rw [Option.some.injEq, Prod.mk.injEq] at h
        rw [← h.2]
        exact (List.dropWhile_suffix _).trans hsign
    · cases h

theorem leaves_readNumber (n : Nat) (cs : List Char) : Leaves n cs (readNumber cs) := by
  unfold readNumber
  split
  next negative unsigned heq =>
  -- What is left of the text in turn: behind a sign, the whole digits, and the fraction.
  have hunsigned : unsigned <:+ cs := by
    split at heq
    · cases heq
      exact List.suffix_cons _ _
    · cases heq
      exact List.suffix_rfl
  dsimp only
  split
  · exact trivial
  generalize fractionDigits (unsigned.drop (wholeDigits unsigned).length) = fraction
  generalize hafter : (if fraction.isEmpty then unsigned.drop (wholeDigits unsigned).length
    else (unsigned.drop (wholeDigits unsigned).length).drop (fraction.length + 1)) = after
  have hwhole : unsigned.drop (wholeDigits unsigned).length <:+ cs :=
    (List.drop_suffix _ _).trans hunsigned
  have hrest : after <:+ cs := by
    refine List.IsSuffix.trans ?_ hwhole
    rw [← hafter]
    split
    · exact List.suffix_rfl
    · exact List.drop_suffix _ _
  split
  · split
    · exact hrest
    · exact trivial
  · cases hpower : Numeral.readExponent? after with
    | none => exact hrest
    | some power => exact (readExponent?_suffix hpower).trans hrest

section Containers

variable {element : ValueReader}

theorem leaves_readItems (helement : ∀ cs, Leaves n cs (element cs)) (fuel : Nat) :
    ∀ (seen : List Json) (cs : List Char), Leaves n cs (readItems element fuel seen cs) := by
  induction fuel with
  | zero => exact fun _ _ => trivial
  | succ fuel ih =>
    intro seen cs
    refine (helement cs).bind fun item rest => ?_
    dsimp only
    split
    · next heq => exact suffix_of_skip heq
    · next tail heq => exact (ih _ _).mono ((skip_suffix tail).trans (suffix_of_skip heq))
    · exact trivial

theorem leaves_readFields (helement : ∀ cs, Leaves n cs (element cs)) (fuel : Nat) :
    ∀ (seen : List (String × Json)) (cs : List Char),
      Leaves n cs (readFields element fuel seen cs) := by
  induction fuel with
  | zero => exact fun _ _ => trivial
  | succ fuel ih =>
    intro seen cs
    rw [readFields.eq_def]
    split
    · next heq => cases heq
    · next k cs heq =>
      cases heq
      refine ((leaves_readString n _ {} cs).bind fun name rest => ?_).mono (List.suffix_cons _ _)
      dsimp only
      split
      · next tail heq =>
        refine ((helement _).bind fun value rest => ?_).mono
          ((skip_suffix tail).trans (suffix_of_skip heq))
        dsimp only
        split
        · next heq => exact suffix_of_skip heq
        · next tail heq => exact (ih _ _).mono ((skip_suffix tail).trans (suffix_of_skip heq))
        · exact trivial
      · exact trivial
    · exact trivial

theorem leaves_readArray (helement : ∀ cs, Leaves n cs (element cs)) (fuel : Nat)
    (cs : List Char) : Leaves n cs (readArray fuel element cs) := by
  unfold readArray
  split
  · next heq => exact suffix_of_skip heq
  · exact ((leaves_readItems helement fuel [] _).mono (skip_suffix cs)).map

theorem leaves_readObject (helement : ∀ cs, Leaves n cs (element cs)) (fuel : Nat)
    (cs : List Char) : Leaves n cs (readObject fuel element cs) := by
  unfold readObject
  split
  · next heq => exact suffix_of_skip heq
  · exact ((leaves_readFields helement fuel [] _).mono (skip_suffix cs)).map

end Containers

/-- A container may nest one level more than what stands behind its opening bracket. -/
theorem Leaves.opening {c : Char} (hc : (c == '[' || c == '{') = true)
    {x : Except Stop (α × List Char)} (h : Leaves n cs x) : Leaves (n + 1) (c :: cs) x := by
  rcases x with (_ | _ | _) | ⟨a, rest⟩
  · exact trivial
  · show n + 1 < openings (c :: cs)
    rw [openings_cons hc]
    exact Nat.succ_lt_succ h
  · exact trivial
  · exact h.trans (List.suffix_cons c cs)

/-- The reader of one value leaves an end of its text, and stops for depth only if there are more
opening brackets than levels. -/
theorem leaves_readValue (fuel depth : Nat) (cs : List Char) :
    Leaves depth cs (readValue fuel depth cs) := by
  induction depth using Nat.strongRecOn generalizing cs with
  | ind depth ih =>
    rw [readValue.eq_def]
    split
    · exact ((leaves_readString _ _ {} _).map).mono (List.suffix_cons _ _)
    · next tail =>
      show 0 < openings ('[' :: tail)
      rw [openings_cons rfl]
      exact Nat.succ_pos _
    · next tail =>
      show 0 < openings ('{' :: tail)
      rw [openings_cons rfl]
      exact Nat.succ_pos _
    · next depth tail =>
      exact (leaves_readArray (ih depth (Nat.lt_succ_self depth)) fuel tail).opening rfl
    · next depth tail =>
      exact (leaves_readObject (ih depth (Nat.lt_succ_self depth)) fuel tail).opening rfl
    · exact List.suffix_append ['n', 'u', 'l', 'l'] _
    · exact List.suffix_append ['t', 'r', 'u', 'e'] _
    · exact List.suffix_append ['f', 'a', 'l', 's', 'e'] _
    · exact List.suffix_append ['N', 'a', 'N'] _
    · exact List.suffix_append ['I', 'n', 'f', 'i', 'n', 'i', 't', 'y'] _
    · exact List.suffix_append ['-', 'I', 'n', 'f', 'i', 'n', 'i', 't', 'y'] _
    · exact leaves_readNumber _ _

/-- Lists and objects are nested deeper than `depth`, and nothing before that is refused. -/
def NestsTooDeep (depth : Nat) (text : String) : Prop :=
  ∃ container, read depth text = .error (.tooDeep container)

theorem read_eq_tooDeep_iff {text : String} {container : Container} :
    read depth text = .error (.tooDeep container) ↔
      readText depth text.toList = .error (.tooDeep container) := by
  unfold read
  rcases readText depth text.toList with (_ | _ | _) | ⟨v, rest⟩
  · exact ⟨nofun, nofun⟩
  · simp only [Stop.locate, Except.error.injEq, ReadError.tooDeep.injEq, Stop.tooDeep.injEq]
  · exact ⟨nofun, nofun⟩
  · exact ⟨nofun, nofun⟩

/-- A text that nests too deep has more opening brackets than there may be levels. -/
theorem NestsTooDeep.lt_openings {text : String} (h : NestsTooDeep depth text) :
    depth < openings text.toList := by
  obtain ⟨container, h⟩ := h
  rw [read_eq_tooDeep_iff] at h
  have hleaves : Leaves depth text.toList (readText depth text.toList) := by
    rw [readText.eq_def]
    split
    · exact trivial
    · refine ((leaves_readValue _ _ _).bind fun v rest => ?_).mono (skip_suffix _)
      dsimp only
      split
      · exact List.nil_suffix
      · exact trivial
  rw [h] at hleaves
  exact hleaves

theorem readValue_openings (k : Nat) (rest : List Char) (depth : Nat) :
    readValue (k + 1) depth (List.replicate (depth + 1) '[' ++ rest) =
      .error (.tooDeep .array) := by
  induction depth with
  | zero => rfl
  | succ depth ih =>
    rw [List.replicate_succ, List.cons_append, readValue]
    rw [List.replicate_succ, List.cons_append] at ih ⊢
    show (readItems (readValue (k + 1) depth) (k + 1) [] _).map _ = _
    rw [readItems, ih]
    rfl

/-- As many opening brackets at the front are enough, whatever follows them. -/
theorem nestsTooDeep_of_openings {text : String}
    (h : List.replicate (depth + 1) '[' <+: text.toList) : NestsTooDeep depth text := by
  obtain ⟨rest, hrest⟩ := h
  refine ⟨.array, read_eq_tooDeep_iff.mpr ?_⟩
  have hvalue := readValue_openings (depth + rest.length) rest depth
  have hlength : text.toList.length = depth + rest.length + 1 := by
    rw [← hrest, List.length_append, List.length_replicate]
    omega
  have hcons : text.toList = '[' :: (List.replicate depth '[' ++ rest) := by
    rw [← hrest, List.replicate_succ, List.cons_append]
  have hskip : skip text.toList = text.toList := by
    rw [hcons]
    rfl
  rw [readText.eq_def]
  split
  · next heq =>
    rw [hcons] at heq
    exact absurd (List.cons.inj heq).1 (by decide)
  · rw [hskip, hlength, ← hrest, hvalue]
    rfl

end Spreadsheet.Json

import Spreadsheet.Proofs.Json.Strings

/-!
Written documents read back.

A layout is *padded* if it puts nothing between the parts of a document but padding and the marks
that belong there.  `read_write` says that a document of texts, lists and objects that is written in
such a layout reads back as the very document that was written.

The induction is on the depth that the reader has left; inside a list or an object it is on the
items.  The reader has one fuel for all lists and objects, the length of the whole text, so the
bound that is carried along is the length of the written piece.
-/

namespace Spreadsheet.Json

/-- The characters are padding, all of them. -/
def IsPadding (cs : List Char) : Prop :=
  ∀ c ∈ cs, isPadding c = true

/-- The text is the mark with padding on both sides. -/
def IsPaddedMark (mark : Char) (cs : List Char) : Prop :=
  ∃ before after, IsPadding before ∧ IsPadding after ∧ cs = before ++ mark :: after

/-- The layout puts nothing between the parts of a document but padding, with a comma between items
and a colon after a name. -/
structure Format.IsPadded (f : Format) : Prop where
  indent : ∀ unit, f.indent = some (.text unit) → IsPadding unit.toList
  separators : ∀ item name, f.separators = some (item, name) →
    IsPaddedMark ',' item.toList ∧ IsPaddedMark ':' name.toList

/-- Documents made of texts, lists and objects, nested at most so deep. -/
inductive Textual : Nat → Json → Prop
  | string {depth : Nat} {s : String} : Textual depth (.string s)
  | array {depth : Nat} {items : List Json} :
      (∀ item ∈ items, Textual depth item) → Textual (depth + 1) (.array items)
  | object {depth : Nat} {fields : List (String × Json)} :
      (∀ field ∈ fields, Textual depth field.2) → Textual (depth + 1) (.object fields)

/-! ### Padding -/

theorem skip_append {pad : List Char} (h : IsPadding pad) (cs : List Char) :
    skip (pad ++ cs) = skip cs :=
  List.dropWhile_append_of_pos h

theorem skip_cons {c : Char} (h : isPadding c = false) (cs : List Char) :
    skip (c :: cs) = c :: cs := by
  simp [skip, h]

/-- Behind a padded mark the text goes on as if there were no padding. -/
theorem skip_paddedMark {mark : Char} {separator : List Char} (h : IsPaddedMark mark separator)
    (hmark : isPadding mark = false) (cs : List Char) :
    ∃ tail, skip (separator ++ cs) = mark :: tail ∧ skip tail = skip cs := by
  obtain ⟨before, after, hbefore, hafter, rfl⟩ := h
  refine ⟨after ++ cs, ?_, skip_append hafter cs⟩
  rw [List.append_assoc, skip_append hbefore, List.cons_append, skip_cons hmark]

theorem isPadding_newline {f : Format} (hf : f.IsPadded) (level : Nat) :
    IsPadding (f.newline level) := by
  intro c hc
  rw [Format.newline] at hc
  cases hi : f.indent with
  | none =>
    rw [hi] at hc
    exact absurd hc List.not_mem_nil
  | some indent =>
    rw [hi] at hc
    rcases List.mem_cons.mp hc with rfl | hc
    · rfl
    · obtain ⟨unit, hunit, hc⟩ := List.mem_flatten.mp hc
      rw [List.eq_of_mem_replicate hunit] at hc
      cases indent with
      | spaces count =>
        rw [List.eq_of_mem_replicate hc]
        rfl
      | text unit => exact hf.indent unit hi c hc

theorem isPaddedMark_itemSeparator {f : Format} (hf : f.IsPadded) :
    IsPaddedMark ',' f.itemSeparator := by
  rw [Format.itemSeparator]
  split
  · next item name hs => exact (hf.separators item name hs).1
  · exact ⟨[], [], by simp [IsPadding], by simp [IsPadding], rfl⟩
  · exact ⟨[], [' '], by simp [IsPadding], by simp [IsPadding, isPadding], rfl⟩

theorem isPaddedMark_nameSeparator {f : Format} (hf : f.IsPadded) :
    IsPaddedMark ':' f.nameSeparator := by
  rw [Format.nameSeparator]
  split
  · next item name hs => exact (hf.separators item name hs).2
  · exact ⟨[], [' '], by simp [IsPadding], by simp [IsPadding, isPadding], rfl⟩

/-! ### The shape of a written piece -/

/-- A written document of texts begins with a mark that is neither padding nor a closing one. -/
theorem render_eq_cons {depth : Nat} {v : Json} (hv : Textual depth v) (f : Format)
    (level : Nat) :
    ∃ c tail, render f level v = c :: tail ∧ (c = '"' ∨ c = '[' ∨ c = '{') := by
  cases hv with
  | string => exact ⟨'"', _, rfl, .inl rfl⟩
  | @array _ items _ =>
    cases items with
    | nil => exact ⟨'[', _, rfl, .inr (.inl rfl)⟩
    | cons item items =>
      rw [render]
      exact ⟨'[', _, rfl, .inr (.inl rfl)⟩
  | @object _ fields _ =>
    cases fields with
    | nil => exact ⟨'{', _, rfl, .inr (.inr rfl)⟩
    | cons field fields =>
      rw [render]
      exact ⟨'{', _, rfl, .inr (.inr rfl)⟩

/-- There is no padding in front of a written document. -/
theorem skip_render {depth : Nat} {v : Json} (hv : Textual depth v) (f : Format) (level : Nat)
    (rest : List Char) : skip (render f level v ++ rest) = render f level v ++ rest := by
  obtain ⟨c, tail, heq, hc⟩ := render_eq_cons hv f level
  rw [heq, List.cons_append, skip_cons]
  rcases hc with rfl | rfl | rfl <;> rfl

theorem writeString_append (asciiOnly : Bool) (s : String) (rest : List Char) :
    writeString asciiOnly s ++ rest =
      '"' :: (s.toList.flatMap (writeChar asciiOnly) ++ '"' :: rest) := by
  simp [writeString]

theorem skip_writeString (asciiOnly : Bool) (s : String) (rest : List Char) :
    skip (writeString asciiOnly s ++ rest) = writeString asciiOnly s ++ rest := by
  rw [writeString_append, skip_cons rfl]

theorem length_render_le (f : Format) (level : Nat) {v : Json} :
    ∀ {items : List Json}, v ∈ items →
      (render f level v).length ≤ (renderItems f level items).length := by
  intro items
  induction items with
  | nil => exact fun h => absurd h List.not_mem_nil
  | cons item items ih =>
    intro h
    simp only [renderItems, List.length_append]
    rcases List.mem_cons.mp h with rfl | h
    · omega
    · have := ih h
      omega

theorem length_le_renderItems {f : Format} (hf : f.IsPadded) (level : Nat) (items : List Json) :
    items.length ≤ (renderItems f level items).length := by
  -- Every item but the first has the mark in front of it.
  obtain ⟨before, after, -, -, hseparator⟩ := isPaddedMark_itemSeparator hf
  induction items with
  | nil => exact Nat.zero_le _
  | cons item items ih =>
    simp only [renderItems, hseparator, List.length_append, List.length_cons]
    omega

theorem length_render_le_renderFields (f : Format) (level : Nat) {field : String × Json} :
    ∀ {fields : List (String × Json)}, field ∈ fields →
      (render f level field.2).length ≤ (renderFields f level fields).length := by
  intro fields
  induction fields with
  | nil => exact fun h => absurd h List.not_mem_nil
  | cons first fields ih =>
    intro h
    obtain ⟨name, value⟩ := first
    simp only [renderFields, List.length_append]
    rcases List.mem_cons.mp h with rfl | h
    · show (render f level value).length ≤ _
      omega
    · have := ih h
      omega

theorem length_le_renderFields (f : Format) (level : Nat) (fields : List (String × Json)) :
    fields.length ≤ (renderFields f level fields).length := by
  induction fields with
  | nil => exact Nat.zero_le _
  | cons first fields ih =>
    obtain ⟨name, value⟩ := first
    simp only [renderFields, writeString, List.length_append, List.length_cons]
    omega

/-! ### Lists and objects -/

/-- What a reader of values does with a written document: it takes it off the front of any text. -/
def TakesOff (element : ValueReader) (f : Format) (level : Nat) (v : Json) : Prop :=
  ∀ rest, element (render f level v ++ rest) = .ok (v, rest)

/-- The items of a list are taken off the front, together with the bracket behind them. -/
theorem readItems_render {f : Format} (hf : f.IsPadded) {element : ValueReader} {depth : Nat}
    (level : Nat) (rest : List Char) :
    ∀ (items : List Json) (item : Json) (seen : List Json) (fuel : Nat), items.length < fuel →
      (∀ v ∈ item :: items, Textual depth v ∧ TakesOff element f (level + 1) v) →
      readItems element fuel seen (render f (level + 1) item ++
        (renderItems f (level + 1) items ++ (f.newline level ++ ']' :: rest))) =
          .ok (seen.reverse ++ item :: items, rest) := by
  intro items
  induction items with
  | nil =>
    intro item seen fuel hfuel hitems
    obtain ⟨fuel, rfl⟩ : ∃ n, fuel = n + 1 := ⟨fuel - 1, by omega⟩
    -- Behind the last item stands the bracket.
    have hskip : skip (f.newline level ++ ']' :: rest) = ']' :: rest := by
      rw [skip_append (isPadding_newline hf level), skip_cons rfl]
    rw [readItems, (hitems item List.mem_cons_self).2]
    simp only [renderItems, List.nil_append, bind, Except.bind, hskip]
    rw [List.reverse_cons]
  | cons next items ih =>
    intro item seen fuel hfuel hitems
    obtain ⟨fuel, rfl⟩ : ∃ n, fuel = n + 1 := ⟨fuel - 1, by omega⟩
    have hnext := (hitems next (List.mem_cons_of_mem _ List.mem_cons_self)).1
    -- Behind the item stand the comma and the next item.
    obtain ⟨tail, hmark, htail⟩ := skip_paddedMark (isPaddedMark_itemSeparator hf) rfl
      (f.newline (level + 1) ++ (render f (level + 1) next ++
        (renderItems f (level + 1) items ++ (f.newline level ++ ']' :: rest))))
    rw [skip_append (isPadding_newline hf (level + 1)), skip_render hnext] at htail
    rw [readItems, (hitems item List.mem_cons_self).2]
    simp only [renderItems, List.append_assoc, bind, Except.bind, hmark]
    rw [htail, ih next (item :: seen) fuel (by simpa using hfuel)
      fun v hv => hitems v (List.mem_cons_of_mem _ hv)]
    simp

/-- The fields of an object are taken off the front, together with the brace behind them. -/
theorem readFields_render {f : Format} (hf : f.IsPadded) {element : ValueReader} {depth : Nat}
    (level : Nat) (rest : List Char) :
    ∀ (fields : List (String × Json)) (name : String) (value : Json)
      (seen : List (String × Json)) (fuel : Nat), fields.length < fuel →
      (∀ field ∈ (name, value) :: fields,
        Textual depth field.2 ∧ TakesOff element f (level + 1) field.2) →
      readFields element fuel seen (writeString f.asciiOnly name ++ (f.nameSeparator ++
        (render f (level + 1) value ++ (renderFields f (level + 1) fields ++
          (f.newline level ++ '\x7d' :: rest))))) =
            .ok (seen.reverse ++ (name, value) :: fields, rest) := by
  intro fields
  induction fields with
  | nil =>
    intro name value seen fuel hfuel hfields
    obtain ⟨fuel, rfl⟩ : ∃ n, fuel = n + 1 := ⟨fuel - 1, by omega⟩
    obtain ⟨hvalue, htakes⟩ := hfields (name, value) List.mem_cons_self
    -- Behind the name stand the colon and the value, and behind the last value the brace.
    obtain ⟨tail, hmark, htail⟩ := skip_paddedMark (isPaddedMark_nameSeparator hf) rfl
      (render f (level + 1) value ++ (f.newline level ++ '\x7d' :: rest))
    rw [skip_render hvalue] at htail
    have hskip : skip (f.newline level ++ '\x7d' :: rest) = '\x7d' :: rest := by
      rw [skip_append (isPadding_newline hf level), skip_cons rfl]
    simp only [renderFields, List.nil_append]
    rw [writeString_append, readFields, readString_writeString]
    simp only [bind, Except.bind, hmark, htail]
    rw [htakes]
    simp only [hskip]
    rw [List.reverse_cons]
  | cons next fields ih =>
    intro name value seen fuel hfuel hfields
    obtain ⟨fuel, rfl⟩ : ∃ n, fuel = n + 1 := ⟨fuel - 1, by omega⟩
    obtain ⟨nextName, nextValue⟩ := next
    obtain ⟨hvalue, htakes⟩ := hfields (name, value) List.mem_cons_self
    -- Behind the name stand the colon and the value.
    obtain ⟨tail, hmark, htail⟩ := skip_paddedMark (isPaddedMark_nameSeparator hf) rfl
      (render f (level + 1) value ++ (f.itemSeparator ++ (f.newline (level + 1) ++
        (writeString f.asciiOnly nextName ++ (f.nameSeparator ++ (render f (level + 1) nextValue ++
          (renderFields f (level + 1) fields ++ (f.newline level ++ '\x7d' :: rest))))))))
    rw [skip_render hvalue] at htail
    -- Behind the value stand the comma and the next name.
    obtain ⟨tail', hmark', htail'⟩ := skip_paddedMark (isPaddedMark_itemSeparator hf) rfl
      (f.newline (level + 1) ++ (writeString f.asciiOnly nextName ++ (f.nameSeparator ++
        (render f (level + 1) nextValue ++ (renderFields f (level + 1) fields ++
          (f.newline level ++ '\x7d' :: rest))))))
    rw [skip_append (isPadding_newline hf (level + 1)), skip_writeString] at htail'
    simp only [renderFields, List.append_assoc]
    rw [writeString_append, readFields, readString_writeString]
    simp only [bind, Except.bind, hmark, htail]
    rw [htakes]
    simp only [hmark']
    rw [htail', ih nextName nextValue ((name, value) :: seen) fuel (by simpa using hfuel)
      fun field hfield => hfields field (List.mem_cons_of_mem _ hfield)]
    simp

/-- A list that does not end at once is read item by item. -/
theorem readArray_of_skip {cs items : List Char} (fuel : Nat) (element : ValueReader)
    (h : skip cs = items) (hitems : ∀ rest, items ≠ ']' :: rest) :
    readArray fuel element cs =
      (readItems element fuel [] items).map fun (items, rest) => (.array items, rest) := by
  rw [readArray, h]
  split
  · next rest => exact absurd rfl (hitems rest)
  · rfl

/-- An object that does not end at once is read field by field. -/
theorem readObject_of_skip {cs fields : List Char} (fuel : Nat) (element : ValueReader)
    (h : skip cs = fields) (hfields : ∀ rest, fields ≠ '\x7d' :: rest) :
    readObject fuel element cs =
      (readFields element fuel [] fields).map fun (fields, rest) => (.object fields, rest) := by
  rw [readObject, h]
  split
  · next rest => exact absurd rfl (hfields rest)
  · rfl

/-! ### Documents -/

/-- A written document is taken off the front of any text, if the reader has depth and fuel
enough. -/
theorem readValue_render {f : Format} (hf : f.IsPadded) {fuel : Nat} :
    ∀ {depth : Nat} {v : Json}, Textual depth v → ∀ level, (render f level v).length ≤ fuel →
      TakesOff (readValue fuel depth) f level v := by
  intro depth
  induction depth with
  | zero =>
    intro v hv level _ rest
    cases hv with
    | string =>
      rw [render, writeString_append, readValue, readString_writeString]
      rfl
  | succ depth ih =>
    intro v hv level hfuel rest
    cases hv with
    | string =>
      rw [render, writeString_append, readValue, readString_writeString]
      rfl
    | @array _ items hitems =>
      cases items with
      | nil =>
        rw [render, List.cons_append, readValue, readArray]
        rfl
      | cons item items =>
        simp only [render, List.length_append, List.length_cons] at hfuel
        have hlength := length_le_renderItems hf (level + 1) items
        -- Each item is nested less deep, and its text is a part of the text.
        have htakes : ∀ v ∈ item :: items,
            Textual depth v ∧ TakesOff (readValue fuel depth) f (level + 1) v := by
          intro v hv
          refine ⟨hitems v hv, ih (hitems v hv) (level + 1) ?_⟩
          rcases List.mem_cons.mp hv with rfl | hv
          · omega
          · have := length_render_le f (level + 1) hv
            omega
        have hitem := (htakes item List.mem_cons_self).1
        simp only [render, List.cons_append, List.append_assoc, List.nil_append]
        rw [readValue, readArray_of_skip fuel _
          ((skip_append (isPadding_newline hf (level + 1)) _).trans
            (skip_render hitem f (level + 1) _)),
          readItems_render hf level rest items item [] fuel (by omega) htakes]
        · rfl
        -- The list does not end at once.
        · obtain ⟨c, tail, heq, hc⟩ := render_eq_cons hitem f (level + 1)
          rw [heq]
          rcases hc with rfl | rfl | rfl <;> simp
    | @object _ fields hfields =>
      cases fields with
      | nil =>
        rw [render, List.cons_append, readValue, readObject]
        rfl
      | cons field fields =>
        obtain ⟨name, value⟩ := field
        simp only [render, List.length_append, List.length_cons] at hfuel
        have hlength := length_le_renderFields f (level + 1) fields
        have htakes : ∀ field ∈ (name, value) :: fields,
            Textual depth field.2 ∧ TakesOff (readValue fuel depth) f (level + 1) field.2 := by
          intro field hfield
          refine ⟨hfields field hfield, ih (hfields field hfield) (level + 1) ?_⟩
          rcases List.mem_cons.mp hfield with rfl | hfield
          · show (render f (level + 1) value).length ≤ fuel
            omega
          · have := length_render_le_renderFields f (level + 1) hfield
            omega
        simp only [render, List.cons_append, List.append_assoc, List.nil_append]
        rw [readValue, readObject_of_skip fuel _
          ((skip_append (isPadding_newline hf (level + 1)) _).trans
            (skip_writeString f.asciiOnly name _)),
          readFields_render hf level rest fields name value [] fuel (by omega) htakes]
        · rfl
        · simp [writeString]

/-- **Written documents read back.**  In a padded layout, and if they nest no deeper than the reader
goes, what is read is the very document that was written, with its fields sorted if the layout sorts
them. -/
theorem read_write {f : Format} (hf : f.IsPadded) {depth : Nat} {v : Json}
    (hv : Textual depth (if f.sortNames then v.sortNames else v)) :
    read depth (v.write f) = .ok (if f.sortNames then v.sortNames else v) := by
  rw [read, write, String.toList_ofList]
  generalize (if f.sortNames then v.sortNames else v) = w at hv ⊢
  have htakes := readValue_render hf hv 0 (Nat.le_refl _) []
  have hskip := skip_render hv f 0 []
  rw [List.append_nil] at htakes hskip
  obtain ⟨c, tail, heq, hc⟩ := render_eq_cons hv f 0
  have htext : readText depth (render f 0 w) = .ok (w, []) := by
    rw [readText.eq_def]
    split
    -- No document begins with a byte order mark.
    · next rest hbom =>
      rw [heq, List.cons.injEq] at hbom
      rcases hc with rfl | rfl | rfl <;> exact absurd hbom.1 (by decide)
    · rw [hskip, htakes]
      rfl
  rw [htext]

end Spreadsheet.Json

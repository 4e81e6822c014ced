import Spreadsheet.Proofs.Dependence
import Spreadsheet.Proofs.Recalculation

/-!
Recalculations settle.

Every formula cell has a rank such that what it reads has a lower one, or the same and an earlier
place.  A pass then settles the cells of one rank more: those below it are current and are not
written, and those of the rank itself are met in an order in which all that they read is settled
(`Sweep.Settled.visit`, `Sweep.Settled.run`).  So after as many passes as there are ranks all cells
are current (`Editor.recalculate_converges`), and from then on a recalculation has no effect
(`Editor.recalculate_of_isCurrent`).
-/

namespace Spreadsheet

open Formula (Registry IsReadable)

/-- What a formula cell reads of formula cells has a lower rank, or the same rank and an earlier
place. -/
def Grid.IsRanked (g : Grid) (rank : CellRef → Nat) : Prop :=
  ∀ p q, g.Reads p q → (∃ c, (q, c) ∈ g.formulaCells) →
    rank q < rank p ∨ rank q = rank p ∧ q < p

theorem Grid.SameFormulas.isRanked {g g' : Grid} {rank : CellRef → Nat} (h : g.SameFormulas g')
    (hrank : g.IsRanked rank) : g'.IsRanked rank := by
  rintro p q hreads ⟨c, hq⟩
  obtain ⟨c', hq', _⟩ := h.symm.exists_mem hq
  exact hrank p q (h.symm.reads hreads) ⟨c', hq'⟩

namespace Sweep

variable {registry : Registry} {g : Grid} {rank : CellRef → Nat} {k : Nat}
  {met entries : List (CellRef × Cell)} {w w' : Sweep}

theorem Tracks.sameFormulas (h : Tracks g met w) : g.SameFormulas w.grid :=
  ⟨h.rows, h.cols, h.formula⟩

/-- The cells of a rank below `k` are current, and those of rank `k` that were met. -/
def Settled (registry : Registry) (rank : CellRef → Nat) (k : Nat) (met : List (CellRef × Cell))
    (g : Grid) : Prop :=
  ∀ entry ∈ g.formulaCells,
    rank entry.1 < k ∨ rank entry.1 = k ∧ entry.1 ∈ met.map Prod.fst → IsCurrent registry g entry

/-- A cell that is current can be met. -/
theorem Settled.append (h : Settled registry rank k met g) {entry : CellRef × Cell}
    (hcurrent : ∀ c, (entry.1, c) ∈ g.formulaCells → IsCurrent registry g (entry.1, c)) :
    Settled registry rank k (met ++ [entry]) g := by
  rintro ⟨ref, c⟩ hx hxrank
  by_cases hplace : ref = entry.1
  · rw [hplace] at hx ⊢
    exact hcurrent c hx
  · refine h _ hx (hxrank.imp_right fun hxk => ⟨hxk.1, ?_⟩)
    have hmem := hxk.2
    rw [List.map_append, List.mem_append] at hmem
    exact hmem.resolve_right fun hlast => hplace (List.mem_singleton.mp hlast)

/-- Writing a formula cell of rank `k` or higher, behind all that were met, unsettles no other
one. -/
theorem Settled.put (h : Settled registry rank k met g) (hrank : g.IsRanked rank) {row col : Nat}
    (hrow : row < g.rows) (hcol : col < g.cols)
    (hmem : (⟨row, col⟩, g.cellAt row col) ∈ g.formulaCells) (hk : k ≤ rank ⟨row, col⟩)
    (hbefore : ∀ x ∈ met, x.1 < ⟨row, col⟩) (c : Cell) :
    Settled registry rank k met (g.put row col c) := by
  intro x hx hxrank
  obtain ⟨i, j, hin, hformula, rfl⟩ := (Grid.mem_formulaCells_iff _ x).mp hx
  have hlt : ∀ ref : CellRef, ref ∈ met.map Prod.fst → ref < ⟨row, col⟩ := by
    intro ref href
    obtain ⟨y, hy, rfl⟩ := List.mem_map.mp href
    exact hbefore y hy
  -- It is another cell: that one is neither of a lower rank nor was it met.
  have hplace : ¬(i = row ∧ j = col) := by
    rintro ⟨rfl, rfl⟩
    rcases hxrank with hlow | ⟨_, hmet⟩
    · exact absurd hlow (Nat.not_lt.mpr hk)
    · exact CellRef.lt_irrefl _ (hlt _ hmet)
  dsimp only at hxrank
  rw [g.cellAt_put hrow hcol, if_neg hplace] at hformula ⊢
  have hx' : (⟨i, j⟩, g.cellAt i j) ∈ g.formulaCells :=
    (g.mem_formulaCells_iff _).mpr ⟨i, j, hin, hformula, rfl⟩
  obtain ⟨outcome, houtcome, hdisplay⟩ := h _ hx' hxrank
  refine ⟨outcome, (Formula.evaluate_put registry hrow hcol ?_ c).trans houtcome, hdisplay⟩
  -- It does not read the written cell, which is of a rank too high or comes too late.
  intro r hr hread
  rcases hrank ⟨i, j⟩ ⟨row, col⟩ ⟨_, r, hx', hr, hread⟩ ⟨_, hmem⟩ with hlow | ⟨heq, hbehind⟩
  · omega
  · rcases hxrank with hlow | ⟨_, hmet⟩
    · omega
    · exact CellRef.lt_asymm hbehind (hlt _ hmet)

/-- A visit settles its cell and unsettles no other one. -/
theorem Settled.visit (h : Settled registry rank k met w.grid) (htracks : Tracks g met w)
    (hrank : g.IsRanked rank) {entry : CellRef × Cell} (hentry : entry ∈ g.formulaCells)
    (hbefore : ∀ x ∈ met, x.1 < entry.1) (hvisit : visit registry entry w = (.ok (), w')) :
    Settled registry rank k (met ++ [entry]) w'.grid := by
  obtain ⟨row, col, ⟨hrow, hcol⟩, hformula, rfl⟩ := (g.mem_formulaCells_iff entry).mp hentry
  have hnew : (⟨row, col⟩ : CellRef) ∉ met.map Prod.fst := by
    intro hmem
    obtain ⟨x, hx, heq⟩ := List.mem_map.mp hmem
    exact CellRef.ne_of_lt (hbefore x hx) heq
  -- The sweep still finds the cell as the grid has it.
  have hsame := htracks.cellAt_eq hnew
  have hrow' : row < w.grid.rows := htracks.rows ▸ hrow
  have hcol' : col < w.grid.cols := htracks.cols ▸ hcol
  have hentry' : (⟨row, col⟩, w.grid.cellAt row col) ∈ w.grid.formulaCells := by
    rw [Grid.mem_formulaCells_iff]
    exact ⟨row, col, ⟨hrow', hcol'⟩, by rw [hsame]; exact hformula, rfl⟩
  rw [← hsame] at hvisit hformula ⊢
  rcases visit_cases registry (⟨row, col⟩, w.grid.cellAt row col) w with ⟨e, _, herror⟩ |
    ⟨records, hcurrent, hok⟩ | ⟨outcome, records, houtcome, hne, hok⟩
  · rw [hvisit] at herror
    cases herror
  -- It is current, and nothing is written.
  · rw [hvisit] at hok
    cases hok
    refine h.append fun c hc => ?_
    obtain ⟨i, j, _, _, heq⟩ := (w.grid.mem_formulaCells_iff _).mp hc
    cases heq
    exact hcurrent
  -- It is written, so it was not current, and its rank is not below `k`.
  · rw [hvisit] at hok
    cases hok
    have hk : k ≤ rank ⟨row, col⟩ := by
      refine Nat.le_of_not_lt fun hlow => ?_
      obtain ⟨outcome', houtcome', hdisplay⟩ := h _ hentry' (.inl hlow)
      rw [houtcome] at houtcome'
      cases houtcome'
      exact hne hdisplay
    have hranked := htracks.sameFormulas.isRanked hrank
    refine (h.put hranked hrow' hcol' hentry' hk hbefore _).append fun c hc => ?_
    -- What it shows now was evaluated before the write, and it does not read itself.
    obtain ⟨i, j, _, _, heq⟩ := (Grid.mem_formulaCells_iff _ _).mp hc
    cases heq
    rw [w.grid.cellAt_put hrow' hcol', if_pos ⟨rfl, rfl⟩]
    refine ⟨outcome, (Formula.evaluate_put registry hrow' hcol' ?_ _).trans houtcome, rfl⟩
    intro r hr hread
    rcases hranked ⟨row, col⟩ ⟨row, col⟩ ⟨_, r, hentry', hr, hread⟩ ⟨_, hentry'⟩ with
      hlow | ⟨_, hlow⟩
    · exact Nat.lt_irrefl _ hlow
    · exact CellRef.lt_irrefl _ hlow

/-- A pass over the formula cells of a grid settles all cells of rank `k`. -/
theorem Settled.run (h : Settled registry rank k [] w.grid) (htracks : Tracks g [] w)
    (hrank : g.IsRanked rank) (hrun : run registry g.formulaCells w = (.ok (), w')) :
    Settled registry rank k g.formulaCells w'.grid := by
  have hend : Tracks g g.formulaCells w' ∧ Settled registry rank k g.formulaCells w'.grid := by
    refine run_induction (P := fun met w => Tracks g met w ∧ Settled registry rank k met w.grid) ?_
      (List.nil_append _).symm ⟨htracks, h⟩ hrun
    rintro met entry rest w w' hcells ⟨htracks, hsettled⟩ hvisit
    have hentry : entry ∈ g.formulaCells := by
      rw [hcells]
      exact List.mem_append_right met List.mem_cons_self
    exact ⟨htracks.visit_next hcells hvisit,
      hsettled.visit htracks hrank hentry (Grid.lt_of_formulaCells_eq hcells) hvisit⟩
  exact hend.2

end Sweep

namespace Editor

variable {rank : CellRef → Nat} {s t : Session}

/-- So many recalculations, one after the other, that all return. -/
inductive Recalculates : Nat → Session → Session → Prop
  | zero (s : Session) : Recalculates 0 s s
  | succ {n : Nat} {s t u : Session} {refs : List CellRef} :
    recalculate s = (.ok refs, t) → Recalculates n t u → Recalculates (n + 1) s u

/-- A recalculation that returns answers what its sweep has changed, and leaves its grid. -/
theorem exists_sweep_of_recalculate_eq_ok {refs : List CellRef}
    (h : recalculate s = (.ok refs, t)) :
    ∃ w, s.editor.sweep = (.ok (), w) ∧ refs = w.changed.reverse ∧ t.editor.grid = w.grid ∧
      t.editor.registry = s.editor.registry := by
  obtain ⟨w, hsweep, hrefs, heditor⟩ := editor_of_recalculate_eq_ok h
  refine ⟨w, hsweep, hrefs, ?_, ?_⟩
  · rw [heditor]
  · rw [heditor]

/-- All formula cells of a rank below `k` show what their formulas evaluate to. -/
def IsCurrentBelow (e : Editor) (rank : CellRef → Nat) (k : Nat) : Prop :=
  ∀ entry ∈ e.grid.formulaCells, rank entry.1 < k → IsCurrent e.registry e.grid entry

/-- One recalculation more makes the cells of one rank more current. -/
theorem isCurrentBelow_recalculate {refs : List CellRef} {k : Nat}
    (hrank : s.editor.grid.IsRanked rank) (hcurrent : s.editor.IsCurrentBelow rank k)
    (h : recalculate s = (.ok refs, t)) :
    t.editor.IsCurrentBelow rank (k + 1) ∧ s.editor.grid.SameFormulas t.editor.grid := by
  obtain ⟨w, hsweep, _, hgrid, hregistry⟩ := exists_sweep_of_recalculate_eq_ok h
  have htracks := s.editor.tracks_sweep
  rw [hsweep] at htracks
  have hstart : Sweep.Settled s.editor.registry rank k [] s.editor.grid := by
    intro entry hentry hk
    rcases hk with hlt | ⟨_, hmem⟩
    · exact hcurrent entry hentry hlt
    · exact absurd hmem List.not_mem_nil
  have hend := hstart.run (Sweep.Tracks.start s.editor.grid) hrank hsweep
  rw [IsCurrentBelow, hgrid, hregistry]
  refine ⟨fun entry hentry hk => hend entry hentry ?_, htracks.sameFormulas⟩
  -- All formula cells were met.
  have hmet : entry.1 ∈ s.editor.grid.formulaCells.map Prod.fst := by
    obtain ⟨c, hc, _⟩ := htracks.sameFormulas.symm.exists_mem hentry
    exact List.mem_map.mpr ⟨_, hc, rfl⟩
  rcases Nat.lt_succ_iff_lt_or_eq.mp hk with hlt | heq
  · exact .inl hlt
  · exact .inr ⟨heq, hmet⟩

theorem isCurrentBelow_recalculates {n k : Nat} (hrank : s.editor.grid.IsRanked rank)
    (hcurrent : s.editor.IsCurrentBelow rank k) (h : Recalculates n s t) :
    t.editor.IsCurrentBelow rank (k + n) ∧ s.editor.grid.SameFormulas t.editor.grid := by
  induction h generalizing k with
  | zero s => exact ⟨hcurrent, Grid.SameFormulas.refl _⟩
  | @succ n s t u refs hfirst _ ih =>
    obtain ⟨hcurrent', hsame⟩ := isCurrentBelow_recalculate hrank hcurrent hfirst
    obtain ⟨hlast, hsame'⟩ := ih (hsame.isRanked hrank) hcurrent'
    refine ⟨?_, hsame.trans hsame'⟩
    rw [show k + (n + 1) = k + 1 + n by omega]
    exact hlast

/-- If all formula cells are current, a recalculation reports nothing and changes nothing. -/
theorem recalculate_of_isCurrent (hcurrent : ∀ entry ∈ s.editor.grid.formulaCells,
    IsCurrent s.editor.registry s.editor.grid entry) :
    ∃ t, recalculate s = (.ok [], t) ∧ t.editor = s.editor := by
  obtain ⟨records, hrun⟩ := Sweep.run_of_isCurrent (w := { grid := s.editor.grid }) hcurrent
  rw [recalculate_apply, sweep, hrun]
  exact ⟨_, rfl, rfl⟩

/-- If all reducers tell their failures, formulas that can all be read can be recalculated any
number of times. -/
theorem exists_recalculates (n : Nat) (htells : s.editor.registry.TellsFailures)
    (hread : ∀ entry ∈ s.editor.grid.formulaCells, IsReadable entry.2.formula) :
    ∃ t, Recalculates n s t := by
  induction n generalizing s with
  | zero => exact ⟨s, .zero s⟩
  | succ n ih =>
    obtain ⟨refs, t, h⟩ := recalculate_returns htells hread
    obtain ⟨w, hsweep, _, hgrid, hregistry⟩ := exists_sweep_of_recalculate_eq_ok h
    have htracks := s.editor.tracks_sweep
    rw [hsweep] at htracks
    have hread' : ∀ entry ∈ t.editor.grid.formulaCells, IsReadable entry.2.formula := by
      intro entry hentry
      rw [hgrid] at hentry
      obtain ⟨c, hc, hformula⟩ := htracks.sameFormulas.symm.exists_mem hentry
      rw [← hformula]
      exact hread _ hc
    obtain ⟨u, hu⟩ := ih (hregistry ▸ htells) hread'
    exact ⟨u, .succ h hu⟩

/-- **Recalculations settle**, in one pass more than the highest rank: all formula cells show what
their formulas evaluate to, and from then on every recalculation returns, reports nothing and leaves
the editor, with its grid and its history, as it is. -/
theorem recalculate_converges {n : Nat} (hrank : s.editor.grid.IsRanked rank)
    (hmax : ∀ entry ∈ s.editor.grid.formulaCells, rank entry.1 ≤ n)
    (hpasses : Recalculates (n + 1) s t) :
    (s.editor.grid.SameFormulas t.editor.grid ∧
      ∀ entry ∈ t.editor.grid.formulaCells,
        IsCurrent t.editor.registry t.editor.grid entry) ∧
    ∀ k u, Recalculates k t u →
      u.editor = t.editor ∧ ∃ v, recalculate u = (.ok [], v) ∧ v.editor = t.editor := by
  have hstart : s.editor.IsCurrentBelow rank 0 := fun _ _ hlt => absurd hlt (Nat.not_lt_zero _)
  obtain ⟨hbelow, hsame⟩ := isCurrentBelow_recalculates hrank hstart hpasses
  have hcurrent : ∀ entry ∈ t.editor.grid.formulaCells,
      IsCurrent t.editor.registry t.editor.grid entry := by
    intro entry hentry
    obtain ⟨c, hc, _⟩ := hsame.symm.exists_mem hentry
    have hle := hmax _ hc
    dsimp only at hle
    exact hbelow entry hentry (by omega)
  have hsettled : ∀ u : Session, u.editor = t.editor →
      ∃ v, recalculate u = (.ok [], v) ∧ v.editor = t.editor := by
    intro u heditor
    rw [← heditor] at hcurrent ⊢
    exact recalculate_of_isCurrent hcurrent
  have hkeep : ∀ k u v, Recalculates k u v → u.editor = t.editor → v.editor = t.editor := by
    intro k u v h
    induction h with
    | zero s => exact id
    | @succ n u v w refs hfirst _ ih =>
      intro heditor
      obtain ⟨v', hv', heditor'⟩ := hsettled u heditor
      rw [hfirst] at hv'
      cases hv'
      exact ih heditor'
  refine ⟨⟨hsame, hcurrent⟩, fun k u hu => ?_⟩
  have heditor := hkeep k t u hu rfl
  exact ⟨heditor, hsettled u heditor⟩

/-- A formula that reads the one behind it, which reads a number. -/
def chain : Session where
  editor := {
    grid := ⟨1, 3, [[⟨"", "=SUM(B1:B1)"⟩, ⟨"", "=SUM(C1:C1)"⟩, ⟨"7", ""⟩]], Nat.one_pos, by decide,
      by decide, by decide⟩
    history := { limit := none }
    registry := Registry.standard
    storageKey := "spreadsheet" }
  host := ⟨.memory {}, [], .least⟩

theorem formulaCells_chain : chain.editor.grid.formulaCells =
    [(⟨0, 0⟩, ⟨"", "=SUM(B1:B1)"⟩), (⟨0, 1⟩, ⟨"", "=SUM(C1:C1)"⟩)] :=
  rfl

theorem find_chain : ∀ entry ∈ chain.editor.grid.formulaCells, ∃ r,
    Range.find entry.2.formula = .ok (some r) ∧
      ∀ q ∈ r, q = ⟨entry.1.row, entry.1.col + 1⟩ := by
  intro entry hentry
  rw [formulaCells_chain, List.mem_cons, List.mem_singleton] at hentry
  -- Each formula reads one cell, the next one.
  have hnext : ∀ (col : Int) (q : CellRef),
      q ∈ (⟨⟨0, col⟩, ⟨0, col⟩, Int.le_refl _, Int.le_refl _⟩ : Range) → q = ⟨0, col⟩ := by
    rintro col ⟨row, col'⟩ hq
    have hrow := hq.1
    have hcol := hq.2
    dsimp only at hrow hcol
    rw [CellRef.mk.injEq]
    omega
  rcases hentry with rfl | rfl
  · exact ⟨⟨⟨0, 1⟩, ⟨0, 1⟩, Int.le_refl _, Int.le_refl _⟩, rfl, hnext 1⟩
  · exact ⟨⟨⟨0, 2⟩, ⟨0, 2⟩, Int.le_refl _, Int.le_refl _⟩, rfl, hnext 2⟩

theorem isRanked_chain :
    chain.editor.grid.IsRanked fun ref => if ref.col = 0 then 1 else 0 := by
  rintro p q ⟨c, r, hp, hfind, hq⟩ ⟨c', hq'⟩
  obtain ⟨r', hfind', hnext⟩ := find_chain _ hp
  rw [hfind] at hfind'
  cases hfind'
  rw [hnext q hq] at hq' ⊢
  rw [formulaCells_chain] at hp hq'
  simp only [List.mem_cons, List.not_mem_nil, or_false, Prod.mk.injEq] at hp
  rcases hp with ⟨rfl, _⟩ | ⟨rfl, _⟩
  · exact .inl Nat.zero_lt_one
  · simp at hq'

/-- The first formula is evaluated before the one that it reads, so two passes are needed. -/
theorem recalculate_converges_chain :
    (chain.editor.grid.IsRanked (fun ref => if ref.col = 0 then 1 else 0) ∧
      ∀ entry ∈ chain.editor.grid.formulaCells, (if entry.1.col = 0 then 1 else 0) ≤ 1) ∧
    ∃ t, Recalculates 2 chain t ∧
      (∀ entry ∈ t.editor.grid.formulaCells,
        IsCurrent t.editor.registry t.editor.grid entry) ∧
      ∃ v, recalculate t = (.ok [], v) ∧ v.editor = t.editor := by
  have hmax : ∀ entry ∈ chain.editor.grid.formulaCells,
      (if entry.1.col = 0 then 1 else 0) ≤ 1 := by
    intro entry _
    split
    · exact Nat.le_refl 1
    · exact Nat.zero_le 1
  have hread : ∀ entry ∈ chain.editor.grid.formulaCells, IsReadable entry.2.formula := by
    intro entry hentry
    obtain ⟨r, hfind, _⟩ := find_chain entry hentry
    exact Formula.isReadable_of_find_eq_ok hfind
  obtain ⟨t, ht⟩ := exists_recalculates 2 Registry.tellsFailures_standard hread
  obtain ⟨⟨_, hcurrent⟩, hfurther⟩ := recalculate_converges isRanked_chain hmax ht
  exact ⟨⟨isRanked_chain, hmax⟩, t, ht, hcurrent, (hfurther 0 t (.zero t)).2⟩

end Editor

end Spreadsheet

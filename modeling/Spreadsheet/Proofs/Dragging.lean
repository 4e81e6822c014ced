import Spreadsheet.Proofs.Gestures

/-!
What stays while a drag goes on.

A drag begins when a cell is pressed, or when dragging is resumed from the active cell, and goes on
until the pointer is released, another cell is pressed or the selection is cleared.  Its anchor is
the cell that is active when it begins.  Entering cells and resuming leave the anchor alone
(`Selection.Drags.step`).  A click does not: it makes its own cell the active one and drops what was
gathered, and the drag goes on.  So `Selection.anchor_stays_iff` says that the anchor stays exactly
in the drags with no click on another cell, and that it stays the first of the gathered cells
exactly in the drags with no click at all.
-/

namespace Spreadsheet.Selection

/-- The event begins a drag. -/
def begins (s : Selection) : Event → Bool
  | .press _ => true
  | .resume => s.active.isSome
  | .click _ | .enter _ | .release | .clear => false

/-- A drag that is going on goes on after the event. -/
def Event.continues : Event → Bool
  | .click _ | .enter _ | .resume => true
  | .press _ | .release | .clear => false

/-- The cell that is clicked. -/
def Event.clicked? : Event → Option CellRef
  | .click cell => some cell
  | .press _ | .enter _ | .release | .resume | .clear => none

/-- The cell that is clicked last. -/
def lastClicked? (events : List Event) : Option CellRef :=
  events.reverse.findSome? Event.clicked?

/-- A drag is going on, and the cell is the active one. -/
structure Drags (s : Selection) (cell : CellRef) : Prop where
  phase : s.phase = .dragging
  active : s.active = some cell

variable {s : Selection} {anchor cell : CellRef} {event opening : Event}
  {events : List Event}

/-! ### Clicks -/

theorem clicked?_eq_some_iff : event.clicked? = some cell ↔ event = .click cell := by
  cases event with
  | click other => simp [Event.clicked?]
  | press | enter | release | resume | clear => simp [Event.clicked?]

theorem lastClicked?_concat (events : List Event) (event : Event) :
    lastClicked? (events ++ [event]) = event.clicked?.or (lastClicked? events) := by
  rw [lastClicked?, List.reverse_append, List.findSome?_append, List.reverse_singleton,
    List.findSome?_singleton]
  rfl

theorem click_mem_of_lastClicked? (h : lastClicked? events = some cell) :
    .click cell ∈ events := by
  obtain ⟨event, hmem, hclicked⟩ := List.exists_of_findSome?_eq_some h
  rw [clicked?_eq_some_iff.mp hclicked] at hmem
  exact List.mem_reverse.mp hmem

/-! ### While a drag goes on -/

/-- A drag that begins has an anchor. -/
theorem drags_of_begins (h : s.begins opening = true) :
    ∃ anchor, (s.step opening).2.Drags anchor ∧
      ∀ cell, opening = .press cell → cell = anchor ∧ (s.step opening).2.gathered = [cell] := by
  cases opening with
  | press cell => exact ⟨cell, ⟨rfl, rfl⟩, fun _ hpress => by cases hpress; exact ⟨rfl, rfl⟩⟩
  | resume =>
    obtain ⟨anchor, hactive⟩ := Option.isSome_iff_exists.mp h
    refine ⟨anchor, ?_, nofun⟩
    show s.resume.Drags anchor
    rw [resume, hactive, Option.isSome_some, if_pos rfl]
    exact ⟨rfl, rfl⟩
  | click | enter | release | clear => cases h

/-- In a drag only a click makes another cell active. -/
theorem Drags.step (hdrags : s.Drags anchor) (hcontinues : event.continues = true) :
    (s.step event).2.Drags (event.clicked?.getD anchor) := by
  cases event with
  | click cell => exact ⟨hdrags.phase, rfl⟩
  | enter cell =>
    show (s.enter cell).Drags anchor
    rw [enter]
    split
    · exact ⟨hdrags.phase, hdrags.active⟩
    · exact hdrags
  | resume =>
    show s.resume.Drags anchor
    rw [resume, hdrags.active, Option.isSome_some, if_pos rfl]
    exact ⟨rfl, rfl⟩
  | press | release | clear => cases hcontinues

/-- The cell that is clicked last is the active one, or else the anchor is. -/
theorem Drags.run (hdrags : s.Drags anchor)
    (hcontinue : ∀ event ∈ events, event.continues = true) :
    (s.run events).Drags ((lastClicked? events).getD anchor) := by
  induction events using List.reverseRecOn with
  | nil => exact hdrags
  | append_singleton events event ih =>
    have hbefore := ih fun event hmem => hcontinue event (List.mem_append_left _ hmem)
    have hstep := hbefore.step (hcontinue event (List.mem_append_right _ List.mem_cons_self))
    rw [run_append, lastClicked?_concat, Option.getD_or]
    exact hstep

/-- Without a click, what is gathered in a drag stays gathered. -/
theorem gathered_step (hcontinues : event.continues = true) (hclicked : event.clicked? = none) :
    s.gathered <+: (s.step event).2.gathered := by
  cases event with
  | click cell => cases hclicked
  | enter cell =>
    show s.gathered <+: (s.enter cell).gathered
    rw [enter]
    split
    · exact List.prefix_append s.gathered [cell]
    · exact List.prefix_refl s.gathered
  | resume =>
    show s.gathered <+: s.resume.gathered
    rw [resume]
    split
    · exact List.prefix_refl s.gathered
    · exact List.prefix_refl s.gathered
  | press | release | clear => cases hcontinues

theorem gathered_run (hcontinue : ∀ event ∈ events, event.continues = true)
    (hclicked : ∀ cell, .click cell ∉ events) : s.gathered <+: (s.run events).gathered := by
  induction events generalizing s with
  | nil => exact List.prefix_refl s.gathered
  | cons event events ih =>
    have hfirst : event.clicked? = none := by
      rw [Option.eq_none_iff_forall_not_mem]
      intro cell hcell
      exact hclicked cell (clicked?_eq_some_iff.mp hcell ▸ List.mem_cons_self)
    have hstep := gathered_step (s := s) (hcontinue event List.mem_cons_self) hfirst
    refine hstep.trans (ih ?_ ?_)
    · exact fun event hmem => hcontinue event (List.mem_cons_of_mem _ hmem)
    · exact fun cell hmem => hclicked cell (List.mem_cons_of_mem _ hmem)

/-- Up to a click in a sequence there is a part of it. -/
theorem exists_prefix_of_click (h : .click cell ∈ events) :
    ∃ front, front ++ [.click cell] <+: events := by
  obtain ⟨front, back, rfl⟩ := List.append_of_mem h
  exact ⟨front, back, by rw [List.append_assoc]; rfl⟩

/-- The anchor stays the active cell as long as no other cell is clicked. -/
theorem Drags.active_stays_iff (hdrags : s.Drags anchor)
    (hcontinue : ∀ event ∈ events, event.continues = true) :
    (∀ part, part <+: events → (s.run part).active = some anchor) ↔
      ∀ cell, .click cell ∈ events → cell = anchor := by
  have hpart : ∀ part, part <+: events →
      (s.run part).active = some ((lastClicked? part).getD anchor) := fun part hupto =>
    (hdrags.run fun event hmem => hcontinue event (hupto.mem hmem)).active
  constructor
  · intro hstays cell hclick
    obtain ⟨front, hupto⟩ := exists_prefix_of_click hclick
    have hactive := hpart _ hupto
    rw [hstays _ hupto, lastClicked?_concat] at hactive
    exact (Option.some.inj hactive).symm
  · intro hclicks part hupto
    rw [hpart part hupto]
    cases hlast : lastClicked? part with
    | none => rfl
    | some cell =>
      rw [hclicks cell (hupto.mem (click_mem_of_lastClicked? hlast))]
      rfl

/-- The anchor stays the first of the gathered cells as long as no cell is clicked. -/
theorem gathered_stays_iff (hgathered : s.gathered = [anchor])
    (hcontinue : ∀ event ∈ events, event.continues = true) :
    (∀ part, part <+: events → (s.run part).gathered.head? = some anchor) ↔
      ∀ cell, .click cell ∉ events := by
  constructor
  · -- A click drops all that was gathered, and the anchor with it.
    intro hstays cell hclick
    obtain ⟨front, hupto⟩ := exists_prefix_of_click hclick
    have hhead := hstays _ hupto
    rw [run_append] at hhead
    cases hhead
  · intro hclicks part hupto
    obtain ⟨rest, hrest⟩ := gathered_run (s := s)
      (fun event hmem => hcontinue event (hupto.mem hmem))
      (fun cell hmem => hclicks cell (hupto.mem hmem))
    rw [← hrest, hgathered]
    rfl

/-- **The anchor of a drag stays exactly if no other cell is clicked**, and it stays the first of
the gathered cells, in a drag that was begun by pressing it, exactly if no cell is clicked.  The
drag goes on in any case, from the cell that is clicked last. -/
theorem anchor_stays_iff (before : List Event) (hbegins : (run {} before).begins opening = true)
    (hcontinue : ∀ event ∈ events, event.continues = true) :
    ∃ anchor, (run {} (before ++ [opening])).Drags anchor ∧
      ((run {} (before ++ [opening])).run events).Drags ((lastClicked? events).getD anchor) ∧
      ((∀ part, part <+: events →
          ((run {} (before ++ [opening])).run part).active = some anchor) ↔
        ∀ cell, .click cell ∈ events → cell = anchor) ∧
      ∀ cell, opening = .press cell → cell = anchor ∧
        ((∀ part, part <+: events →
            ((run {} (before ++ [opening])).run part).gathered.head? = some anchor) ↔
          ∀ other, .click other ∉ events) := by
  obtain ⟨anchor, hdrags, hpress⟩ := drags_of_begins hbegins
  rw [run_append]
  refine ⟨anchor, hdrags, hdrags.run hcontinue, hdrags.active_stays_iff hcontinue, ?_⟩
  intro cell hopening
  obtain ⟨rfl, hgathered⟩ := hpress cell hopening
  exact ⟨rfl, gathered_stays_iff hgathered hcontinue⟩

/-- A cell is entered, another one clicked, and the first one entered again. -/
def clickedEvents : List Event :=
  [.enter ⟨0, 1⟩, .click ⟨1, 1⟩, .enter ⟨0, 1⟩]

/-- A click in the midst of a drag moves the anchor and drops the gathered cells.  In a drag that is
resumed, a click on the anchor does not. -/
theorem anchor_stays_iff_clicked :
    ((run {} [.press ⟨0, 0⟩]).run clickedEvents).Drags ⟨1, 1⟩ ∧
      (¬∀ part, part <+: clickedEvents →
        ((run {} [.press ⟨0, 0⟩]).run part).active = some ⟨0, 0⟩) ∧
      (¬∀ part, part <+: clickedEvents →
        ((run {} [.press ⟨0, 0⟩]).run part).gathered.head? = some ⟨0, 0⟩) ∧
      ∀ part, part <+: clickedEvents →
        ((run {} [.click ⟨1, 1⟩, .resume]).run part).active = some ⟨1, 1⟩ := by
  have hcontinue : ∀ event ∈ clickedEvents, event.continues = true := by decide
  have hclick : .click ⟨1, 1⟩ ∈ clickedEvents := by decide
  have hpress : (run {} []).begins (.press ⟨0, 0⟩) = true := rfl
  have hresume : (run {} [.click ⟨1, 1⟩]).begins .resume = true := rfl
  obtain ⟨anchor, hdrags, hlast, hactive, hgathered⟩ := anchor_stays_iff [] hpress hcontinue
  obtain ⟨rfl, hhead⟩ := hgathered ⟨0, 0⟩ rfl
  refine ⟨hlast, fun hstays => ?_, fun hstays => hhead.mp hstays ⟨1, 1⟩ hclick, ?_⟩
  · exact absurd (hactive.mp hstays ⟨1, 1⟩ hclick) (by decide)
  · obtain ⟨anchor, hdrags, -, hactive, -⟩ := anchor_stays_iff [.click ⟨1, 1⟩] hresume hcontinue
    cases hdrags.active
    refine hactive.mpr fun cell hmem => ?_
    simpa [clickedEvents] using hmem

/-- Not every drag keeps its anchor. -/
theorem anchor_not_fixed :
    ¬∀ (before : List Event) (opening : Event) (events : List Event),
      (run {} before).begins opening = true → (∀ event ∈ events, event.continues = true) →
        ((run {} (before ++ [opening])).run events).active =
          (run {} (before ++ [opening])).active ∧
        ∀ cell, opening = .press cell →
          ((run {} (before ++ [opening])).run events).gathered.head? = some cell := by
  intro h
  have hfixed := (h [] (.press ⟨0, 0⟩) [.click ⟨1, 1⟩] rfl (by decide)).1
  revert hfixed
  decide

end Spreadsheet.Selection

import Mathlib.Data.List.Induction
import Spreadsheet.Selection

/-!
What a sequence of events selects.

A selection is a state machine, and the sequence of events alone says where it stands.  The last
click, press or clearing decides which cell is active (`Selection.activeAfter`), and everything
gathered has been entered since (`Selection.gatheredAfter`).  A drag is going on if the last event
that could begin or end one has begun one (`Selection.draggingAfter`); resuming counts as such an
event only if a cell was active then, so each event is looked at with the events before it, as a
`Moment`.
`Selection.step_described` is the step from one sequence to the next longer one, and
`Selection.run_describes` follows for all sequences.
-/

namespace Spreadsheet.Selection

/-- An event of a sequence, with the events before it. -/
structure Moment where
  before : List Event
  event : Event

/-- The events of a sequence in their order, each with those before it. -/
def moments (events : List Event) : List Moment :=
  events.zipIdx.map fun (event, i) => ⟨events.take i, event⟩

/-- The last moment that counts, if any does. -/
def last? (counts : Moment → Bool) (events : List Event) : Option Moment :=
  (moments events).reverse.find? counts

/-- The moments after the last one that counts, or all if none does. -/
def since (counts : Moment → Bool) (events : List Event) : List Moment :=
  ((moments events).reverse.takeWhile fun m => !counts m).reverse

/-- With the event the selection begins anew. -/
def Moment.resets (m : Moment) : Bool :=
  match m.event with
  | .click _ | .press _ | .clear => true
  | .enter _ | .release | .resume => false

/-- The cell of the last click or press, unless the selection was cleared after it. -/
def activeAfter (events : List Event) : Option CellRef :=
  match last? Moment.resets events with
  | some ⟨_, .click cell⟩ => some cell
  | some ⟨_, .press cell⟩ => some cell
  | _ => none

/-- The event begins or ends a drag.  Without an active cell there is nothing to resume. -/
def Moment.turns (m : Moment) : Bool :=
  match m.event with
  | .press _ | .release | .clear => true
  | .resume => (activeAfter m.before).isSome
  | .click _ | .enter _ => false

/-- The last event that begins or ends a drag has begun one. -/
def draggingAfter (events : List Event) : Bool :=
  match last? Moment.turns events with
  | some ⟨_, .press _⟩ => true
  | some ⟨_, .resume⟩ => true
  | _ => false

/-- The cell that was entered during a drag. -/
def Moment.entered? (m : Moment) : Option CellRef :=
  match m.event with
  | .enter cell => if draggingAfter m.before then some cell else none
  | _ => none

/-- The cell that the selection began with, if it was pressed. -/
def anchorAfter (events : List Event) : List CellRef :=
  match last? Moment.resets events with
  | some ⟨_, .press cell⟩ => [cell]
  | _ => []

/-- The pressed cell that the selection began with, and the cells that were entered since during a
drag, each only where it occurs first. -/
def gatheredAfter (events : List Event) : List CellRef :=
  (anchorAfter events ++ (since Moment.resets events).filterMap Moment.entered?).eraseDups

/-- The selection that a sequence of events describes. -/
def described (events : List Event) : Selection where
  active := activeAfter events
  gathered := gatheredAfter events
  phase := if draggingAfter events then .dragging else .idle

variable {counts : Moment → Bool} {events : List Event} {event : Event}

/-! ### One event more -/

theorem moments_append (events : List Event) (event : Event) :
    moments (events ++ [event]) = moments events ++ [⟨events, event⟩] := by
  rw [moments, List.zipIdx_append, List.map_append]
  congr 1
  · apply List.map_congr_left
    rintro ⟨e, i⟩ hmem
    have hi : i < events.length := by
      have hlt := (List.mem_zipIdx hmem).2.1
      omega
    show Moment.mk (List.take i (events ++ [event])) e = Moment.mk (List.take i events) e
    rw [List.take_append_of_le_length (Nat.le_of_lt hi)]
  · simp

theorem last?_append (counts : Moment → Bool) (events : List Event) (event : Event) :
    last? counts (events ++ [event]) =
      if counts ⟨events, event⟩ then some ⟨events, event⟩ else last? counts events := by
  rw [last?, moments_append, List.reverse_append, List.reverse_singleton, List.singleton_append,
    List.find?_cons]
  cases counts ⟨events, event⟩ with
  | true => rfl
  | false => rfl

theorem since_append (counts : Moment → Bool) (events : List Event) (event : Event) :
    since counts (events ++ [event]) =
      if counts ⟨events, event⟩ then [] else since counts events ++ [⟨events, event⟩] := by
  rw [since, moments_append, List.reverse_append, List.reverse_singleton, List.singleton_append,
    List.takeWhile_cons]
  cases counts ⟨events, event⟩ with
  | true => rfl
  | false =>
    show (⟨events, event⟩ :: (moments events).reverse.takeWhile _).reverse = _
    rw [List.reverse_cons]
    rfl

theorem run_append (s : Selection) (events : List Event) (event : Event) :
    s.run (events ++ [event]) = ((s.run events).step event).2 := by
  rw [run, List.foldl_append]
  rfl

theorem activeAfter_append (h : Moment.resets ⟨events, event⟩ = false) :
    activeAfter (events ++ [event]) = activeAfter events := by
  rw [activeAfter, last?_append, h]
  rfl

theorem draggingAfter_append (h : Moment.turns ⟨events, event⟩ = false) :
    draggingAfter (events ++ [event]) = draggingAfter events := by
  rw [draggingAfter, last?_append, h]
  rfl

/-- An event that leaves the selection as it began adds the cell that it enters. -/
theorem gatheredAfter_append (h : Moment.resets ⟨events, event⟩ = false) :
    gatheredAfter (events ++ [event]) =
      (anchorAfter events ++ (since Moment.resets events).filterMap Moment.entered? ++
        (Moment.entered? ⟨events, event⟩).toList).eraseDups := by
  have hanchor : anchorAfter (events ++ [event]) = anchorAfter events := by
    rw [anchorAfter, last?_append, h]
    rfl
  rw [gatheredAfter, hanchor, since_append, h, List.append_assoc]
  cases hentered : Moment.entered? ⟨events, event⟩ with
  | none => simp [hentered]
  | some cell => simp [hentered]

theorem gatheredAfter_keep (h : Moment.resets ⟨events, event⟩ = false)
    (hentered : Moment.entered? ⟨events, event⟩ = none) :
    gatheredAfter (events ++ [event]) = gatheredAfter events := by
  rw [gatheredAfter_append h, hentered, Option.toList_none, List.append_nil]
  rfl

/-- A cell behind others occurs first there only if it is none of them. -/
theorem eraseDups_concat (cells : List CellRef) (cell : CellRef) :
    (cells ++ [cell]).eraseDups =
      if cell ∈ cells then cells.eraseDups else cells.eraseDups ++ [cell] := by
  rw [List.eraseDups_append]
  by_cases hmem : cell ∈ cells
  · rw [if_pos hmem]
    simp [List.removeAll, hmem]
  · rw [if_neg hmem]
    simp [List.removeAll, hmem, List.eraseDups_cons]

/-- Entering a cell gathers it if a drag is going on and the cell is new. -/
theorem gatheredAfter_enter (events : List Event) (cell : CellRef) :
    gatheredAfter (events ++ [.enter cell]) =
      if (described events).canGather cell then gatheredAfter events ++ [cell]
      else gatheredAfter events := by
  have hphase : (described events).isDragging = draggingAfter events := by
    show ((if draggingAfter events then Phase.dragging else .idle) == Phase.dragging) = _
    cases draggingAfter events with
    | true => rfl
    | false => rfl
  rw [canGather, hphase]
  cases hdragging : draggingAfter events with
  | false =>
    rw [gatheredAfter_keep rfl]
    · rfl
    · simp [Moment.entered?, hdragging]
  | true =>
    have hentered : Moment.entered? ⟨events, .enter cell⟩ = some cell := by
      simp [Moment.entered?, hdragging]
    have hmem : (described events).gathered.contains cell = true ↔
        cell ∈ anchorAfter events ++ (since Moment.resets events).filterMap Moment.entered? := by
      rw [List.contains_iff_mem]
      exact List.mem_eraseDups
    rw [gatheredAfter_append rfl, hentered, Option.toList_some, eraseDups_concat]
    by_cases hold : (described events).gathered.contains cell = true
    · rw [if_pos (hmem.mp hold), hold]
      rfl
    · rw [if_neg (mt hmem.mpr hold), Bool.eq_false_iff.mpr hold]
      rfl

/-- One event more is one step of the selection that is described. -/
theorem step_described (events : List Event) (event : Event) :
    ((described events).step event).2 = described (events ++ [event]) := by
  cases event with
  | click cell =>
    have hactive : activeAfter (events ++ [.click cell]) = some cell := by
      rw [activeAfter, last?_append]
      rfl
    have hgathered : gatheredAfter (events ++ [.click cell]) = [] := by
      rw [gatheredAfter, anchorAfter, last?_append, since_append]
      rfl
    -- A click is no turn: a drag that is going on goes on.
    rw [described.eq_def (events ++ _), hactive, hgathered, draggingAfter_append rfl]
    rfl
  | press cell =>
    have hactive : activeAfter (events ++ [.press cell]) = some cell := by
      rw [activeAfter, last?_append]
      rfl
    have hgathered : gatheredAfter (events ++ [.press cell]) = [cell] := by
      rw [gatheredAfter, anchorAfter, last?_append, since_append]
      exact eraseDups_concat [] cell
    have hdragging : draggingAfter (events ++ [.press cell]) = true := by
      rw [draggingAfter, last?_append]
      rfl
    rw [described.eq_def (events ++ _), hactive, hgathered, hdragging]
    rfl
  | enter cell =>
    rw [described.eq_def (events ++ _), activeAfter_append rfl, draggingAfter_append rfl,
      gatheredAfter_enter]
    show (described events).enter cell = _
    rw [enter]
    by_cases hnew : (described events).canGather cell = true
    · rw [if_pos hnew, if_pos hnew]
      rfl
    · rw [if_neg hnew, if_neg hnew]
      rfl
  | release =>
    have hdragging : draggingAfter (events ++ [.release]) = false := by
      rw [draggingAfter, last?_append]
      rfl
    rw [described.eq_def (events ++ _), activeAfter_append rfl, gatheredAfter_keep rfl rfl,
      hdragging]
    rfl
  | resume =>
    show (described events).resume = _
    rw [resume, described.eq_def (events ++ _), activeAfter_append rfl, gatheredAfter_keep rfl rfl]
    show (if (activeAfter events).isSome then _ else _) = _
    -- Whether resuming is a turn depends on the events before.
    cases hactive : (activeAfter events).isSome with
    | true =>
      have hturns : Moment.turns ⟨events, .resume⟩ = true := hactive
      have hdragging : draggingAfter (events ++ [.resume]) = true := by
        rw [draggingAfter, last?_append, hturns]
        rfl
      rw [hdragging]
      rfl
    | false =>
      have hturns : Moment.turns ⟨events, .resume⟩ = false := hactive
      rw [draggingAfter_append hturns]
      rfl
  | clear =>
    have hactive : activeAfter (events ++ [.clear]) = none := by
      rw [activeAfter, last?_append]
      rfl
    have hgathered : gatheredAfter (events ++ [.clear]) = [] := by
      rw [gatheredAfter, anchorAfter, last?_append, since_append]
      rfl
    have hdragging : draggingAfter (events ++ [.clear]) = false := by
      rw [draggingAfter, last?_append]
      rfl
    rw [described.eq_def (events ++ _), hactive, hgathered, hdragging]
    rfl

theorem run_eq_described (events : List Event) : run {} events = described events := by
  induction events using List.reverseRecOn with
  | nil => rfl
  | append_singleton events event ih => rw [run_append, ih, step_described]

/-- No event begins a drag without an active cell, or takes away the active cell of a drag. -/
theorem isSome_active_step {s : Selection} (h : s.phase = .dragging → s.active.isSome = true)
    (event : Event) :
    (s.step event).2.phase = .dragging → (s.step event).2.active.isSome = true := by
  intro hphase
  cases event with
  | click cell => rfl
  | press cell => rfl
  | enter cell =>
    change (s.enter cell).phase = _ at hphase
    show (s.enter cell).active.isSome = true
    rw [enter] at hphase ⊢
    by_cases hnew : s.canGather cell = true
    · rw [if_pos hnew] at hphase ⊢
      exact h hphase
    · rw [if_neg hnew] at hphase ⊢
      exact h hphase
  | release => cases hphase
  | resume =>
    change s.resume.phase = _ at hphase
    show s.resume.active.isSome = true
    rw [resume] at hphase ⊢
    by_cases hactive : s.active.isSome = true
    · rw [if_pos hactive]
      exact hactive
    · rw [if_neg hactive] at hphase ⊢
      exact h hphase
  | clear => cases hphase

/-- A drag goes on only with an active cell. -/
theorem isSome_active_of_dragging (events : List Event) :
    (run {} events).phase = .dragging → (run {} events).active.isSome = true := by
  induction events using List.reverseRecOn with
  | nil => exact nofun
  | append_singleton events event ih =>
    rw [run_append]
    exact isSome_active_step ih event

/-- **A selection is what the sequence of its events describes.**  The last click, press or clearing
gives the active cell, the last event that begins or ends a drag the phase, and the cells entered
during drags since the selection began are gathered, in the order in which they first occur.
Entering a cell answers whether it was appended, and a drag goes on only with an active cell. -/
theorem run_describes (events : List Event) :
    ((run {} events).active = activeAfter events ∧
      ((run {} events).phase = .dragging ↔ draggingAfter events = true) ∧
      (run {} events).gathered = gatheredAfter events) ∧
    (∀ cell, ∃ appended : Bool, ((run {} events).step (.enter cell)).1 = some appended ∧
      (appended = true ↔ (run {} (events ++ [.enter cell])).gathered =
        (run {} events).gathered ++ [cell]) ∧
      (appended = false ↔ run {} (events ++ [.enter cell]) = run {} events)) ∧
    ((run {} events).phase = .dragging → (run {} events).active.isSome = true) := by
  refine ⟨⟨?_, ?_, ?_⟩, fun cell => ?_, isSome_active_of_dragging events⟩
  · rw [run_eq_described]
    rfl
  · rw [run_eq_described]
    show (if draggingAfter events then Phase.dragging else .idle) = .dragging ↔ _
    cases draggingAfter events with
    | true => simp
    | false => simp
  · rw [run_eq_described]
    rfl
  · have henter : run {} (events ++ [.enter cell]) = (run {} events).enter cell :=
      run_append _ events _
    refine ⟨(run {} events).canGather cell, rfl, ?_⟩
    rw [henter, enter]
    cases (run {} events).canGather cell with
    | true =>
      refine ⟨⟨fun _ => rfl, fun _ => rfl⟩, nofun, fun hsame => ?_⟩
      have hgathered := congrArg Selection.gathered hsame
      simp at hgathered
    | false => simp

/-- A click drops what was gathered and lets the drag go on. -/
example : gatheredAfter [.press ⟨0, 0⟩, .enter ⟨0, 1⟩, .click ⟨1, 1⟩, .enter ⟨0, 1⟩] =
    [⟨0, 1⟩] := by
  decide

end Spreadsheet.Selection

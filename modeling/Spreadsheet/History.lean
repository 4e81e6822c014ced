import Spreadsheet.Log

/-!
Undo and redo.

A `History` holds the states before the present one and, after an undo, those ahead of it, each
side with the nearest state first.  Recording a state drops what could be redone, and if there are
more states behind than the limit allows, the oldest one is forgotten.  The present state is not
part of the history: it is handed in.  `History.undo_eq_ok_iff` and `History.redo_eq_ok_iff` say
when a step succeeds and what it moves.
-/

namespace Spreadsheet

/-- Why an operation on a history is refused. -/
inductive HistoryError where
  | badLimit
  | nothingToUndo
  | nothingToRedo
deriving DecidableEq, Repr

/-- The wording of a refusal. -/
def HistoryError.message : HistoryError → String
  | .badLimit => "History limit must be a positive integer or None"
  | .nothingToUndo => "Nothing to undo"
  | .nothingToRedo => "Nothing to redo"

/-- The states on both sides of the present one, the nearest first. -/
structure History (α : Type) where
  limit : Option Nat
  past : List α := []
  future : List α := []
deriving DecidableEq, Repr

namespace History

variable {α : Type}

/-- An empty history.  A limit must be positive. -/
def new : (limit : Option Int) → Except HistoryError (History α)
  | none => .ok { limit := none }
  | some n => if n ≤ 0 then .error .badLimit else .ok { limit := some n.toNat }

/-- The states without the oldest one, if they are more than the limit allows. -/
def within (limit : Option Nat) (states : List α) : List α :=
  match limit with
  | none => states
  | some n => if n < states.length then states.dropLast else states

/-- Records the state before a change. -/
def record (h : History α) (before : α) : History α :=
  { h with past := within h.limit (before :: h.past), future := [] }

/-- Steps back from the present state to the one before it. -/
def undo (h : History α) (present : α) : Except HistoryError (α × History α) :=
  match h.past with
  | [] => .error .nothingToUndo
  | previous :: past => .ok (previous, { h with past := past, future := present :: h.future })

/-- Steps forward from the present state to the one ahead of it. -/
def redo (h : History α) (present : α) : Except HistoryError (α × History α) :=
  match h.future with
  | [] => .error .nothingToRedo
  | next :: future => .ok (next, { h with past := present :: h.past, future := future })

/-- If there is only one state too many, there are not too many left. -/
theorem length_within_le {n : Nat} {states : List α} (h : states.length ≤ n + 1) :
    (within (some n) states).length ≤ n := by
  rw [within]
  split
  · rw [List.length_dropLast]
    omega
  · omega

theorem mem_of_mem_within {limit : Option Nat} {states : List α} {state : α}
    (h : state ∈ within limit states) : state ∈ states := by
  rw [within.eq_def] at h
  split at h
  · exact h
  · split at h
    · exact (List.dropLast_sublist states).mem h
    · exact h

/-- A step back leads to the nearest state before the present one, which then lies ahead. -/
theorem undo_eq_ok_iff (h h' : History α) (present previous : α) :
    h.undo present = .ok (previous, h') ↔
      ∃ past, h.past = previous :: past ∧
        h' = { h with past := past, future := present :: h.future } := by
  rw [undo]
  cases hp : h.past with
  | nil => simp
  | cons first past =>
    simp only [Except.ok.injEq, Prod.mk.injEq, List.cons.injEq]
    constructor
    · rintro ⟨rfl, rfl⟩
      exact ⟨past, ⟨rfl, rfl⟩, rfl⟩
    · rintro ⟨_, ⟨rfl, rfl⟩, rfl⟩
      exact ⟨rfl, rfl⟩

theorem undo_eq_error_iff (h : History α) (present : α) (e : HistoryError) :
    h.undo present = .error e ↔ h.past = [] ∧ e = .nothingToUndo := by
  rw [undo]
  cases h.past with
  | nil => simp [eq_comm]
  | cons first past => simp

/-- A step forward leads to the nearest state ahead, and the present one then lies behind. -/
theorem redo_eq_ok_iff (h h' : History α) (present next : α) :
    h.redo present = .ok (next, h') ↔
      ∃ future, h.future = next :: future ∧
        h' = { h with past := present :: h.past, future := future } := by
  rw [redo]
  cases hf : h.future with
  | nil => simp
  | cons first future =>
    simp only [Except.ok.injEq, Prod.mk.injEq, List.cons.injEq]
    constructor
    · rintro ⟨rfl, rfl⟩
      exact ⟨future, ⟨rfl, rfl⟩, rfl⟩
    · rintro ⟨_, ⟨rfl, rfl⟩, rfl⟩
      exact ⟨rfl, rfl⟩

theorem redo_eq_error_iff (h : History α) (present : α) (e : HistoryError) :
    h.redo present = .error e ↔ h.future = [] ∧ e = .nothingToRedo := by
  rw [redo]
  cases h.future with
  | nil => simp [eq_comm]
  | cons first future => simp

/-- Forgets both sides. -/
def clear (h : History α) : History α :=
  { h with past := [], future := [] }

/-- How many steps back there are. -/
def undoDepth (h : History α) : Nat :=
  h.past.length

/-- How many steps forward there are. -/
def redoDepth (h : History α) : Nat :=
  h.future.length

/-- The log record of a step that was taken, with what is left on both sides. -/
def stepRecord (h : History α) (step : String) : Record :=
  let back := h.undoDepth
  let forth := h.redoDepth
  ⟨.history, .debug, s!"{step}: {back} undo / {forth} redo entries left"⟩

/-- The history with its depths and its limit. -/
def describe (h : History α) : String :=
  let back := h.undoDepth
  let forth := h.redoDepth
  let limit := match h.limit with
    | none => "None"
    | some n => toString n
  s!"HistoryManager(undo={back}, redo={forth}, limit={limit})"

end History

end Spreadsheet

import Spreadsheet.Action
import Spreadsheet.History

/-!
How many states a history with a limit holds.

Recording is the only call that looks at the limit, and it forgets one state at most.  Redoing puts
a state behind the present one without a look at the limit, and still there are never too many:
undoing and redoing only move a state from one side to the other (`History.Outcome.depth`), so that
what is bounded is the number of states on both sides together (`History.IsBounded`).  Because of
this bound one state is enough to forget, and what recording leaves are the last states, as many as
the limit allows (`History.IsBounded.reverse_past_record`).  `History.IsBounded.perform` is the step
for one call, and `History.depth_of_new` says what follows for all calls on a new history.
-/

namespace Spreadsheet.History

variable {α : Type}

/-- What a history is asked to do, with the state that is handed in. -/
inductive Call (α : Type) where
  | record (before : α)
  | undo (present : α)
  | redo (present : α)
  | clear
deriving DecidableEq, Repr

/-- A step that is taken answers with the state that it leads to.  A step that is refused leaves the
history as it is. -/
def stepWith (step : History α → Except HistoryError (α × History α)) :
    Action HistoryError (History α) (Option α) := fun h =>
  match step h with
  | .ok (state, h') => (.ok (some state), h')
  | .error e => (.error e, h)

/-- Does what a call asks for. -/
def Call.perform : Call α → Action HistoryError (History α) (Option α)
  | .record before => fun h => (.ok none, h.record before)
  | .undo present => stepWith (·.undo present)
  | .redo present => stepWith (·.redo present)
  | .clear => fun h => (.ok none, h.clear)

/-- The call asks for a step back or forth. -/
def Call.moves : Call α → Bool
  | .undo _ | .redo _ => true
  | .record _ | .clear => false

/-- The history after calls one after the other, refused ones included. -/
def run (h : History α) (calls : List (Call α)) : History α :=
  calls.foldl (fun h call => (call.perform h).2) h

/-- The last states, as many as the limit allows. -/
def lastOf (limit : Option Nat) (states : List α) : List α :=
  match limit with
  | none => states
  | some n => states.drop (states.length - n)

/-- The history is left alone, or one call is made on it. -/
def Steps (h h' : History α) : Prop :=
  h' = h ∨ ∃ call : Call α, h' = (call.perform h).2

variable {h h' : History α} {call : Call α} {calls : List (Call α)} {present state : α} {n : Nat}

theorem run_concat (h : History α) (calls : List (Call α)) (call : Call α) :
    h.run (calls ++ [call]) = (call.perform (h.run calls)).2 := by
  rw [run, List.foldl_append]
  rfl

/-! ### Calls -/

/-- All that a call can lead to: its answer and the history after it. -/
inductive Outcome (h : History α) :
    Call α → Except HistoryError (Option α) → History α → Prop
  | recorded (before : α) : Outcome h (.record before) (.ok none) (h.record before)
  | undone {present previous : α} {past : List α} (hpast : h.past = previous :: past) :
      Outcome h (.undo present) (.ok (some previous))
        { h with past := past, future := present :: h.future }
  | notUndone {present : α} (hpast : h.past = []) :
      Outcome h (.undo present) (.error .nothingToUndo) h
  | redone {present next : α} {future : List α} (hfuture : h.future = next :: future) :
      Outcome h (.redo present) (.ok (some next))
        { h with past := present :: h.past, future := future }
  | notRedone {present : α} (hfuture : h.future = []) :
      Outcome h (.redo present) (.error .nothingToRedo) h
  | cleared : Outcome h .clear (.ok none) h.clear

theorem outcome_perform (call : Call α) (h : History α) :
    Outcome h call (call.perform h).1 (call.perform h).2 := by
  cases call with
  | record before => exact .recorded before
  | undo present =>
    rw [Call.perform, stepWith]
    rcases hundo : h.undo present with e | ⟨previous, h'⟩
    · obtain ⟨hpast, rfl⟩ := (undo_eq_error_iff h present e).mp hundo
      exact .notUndone hpast
    · obtain ⟨past, hpast, rfl⟩ := (undo_eq_ok_iff h h' present previous).mp hundo
      exact .undone hpast
  | redo present =>
    rw [Call.perform, stepWith]
    rcases hredo : h.redo present with e | ⟨next, h'⟩
    · obtain ⟨hfuture, rfl⟩ := (redo_eq_error_iff h present e).mp hredo
      exact .notRedone hfuture
    · obtain ⟨future, hfuture, rfl⟩ := (redo_eq_ok_iff h h' present next).mp hredo
      exact .redone hfuture
  | clear => exact .cleared

variable {answer : Except HistoryError (Option α)}

/-- No call changes the limit. -/
theorem Outcome.limit (hcall : Outcome h call answer h') : h'.limit = h.limit := by
  cases hcall with
  | recorded | undone | notUndone | redone | notRedone | cleared => rfl

/-- Steps leave the number of states on both sides together as it is. -/
theorem Outcome.depth (hcall : Outcome h call answer h') (hmoves : call.moves = true) :
    h'.undoDepth + h'.redoDepth = h.undoDepth + h.redoDepth := by
  cases hcall with
  | recorded before => cases hmoves
  | undone hpast =>
    simp only [undoDepth, redoDepth, hpast, List.length_cons]
    omega
  | notUndone hpast => rfl
  | redone hfuture =>
    simp only [undoDepth, redoDepth, hfuture, List.length_cons]
    omega
  | notRedone hfuture => rfl
  | cleared => cases hmoves

/-- Only steps are refused, and where one is, nothing changes. -/
theorem Outcome.refused {e : HistoryError} (hcall : Outcome h call (.error e) h') :
    call.moves = true ∧ h' = h := by
  cases hcall with
  | notUndone hpast => exact ⟨rfl, rfl⟩
  | notRedone hfuture => exact ⟨rfl, rfl⟩

/-- A step that is taken, in the terms of the call that asks for it. -/
theorem perform_undo {previous : α} {past : List α} (hpast : h.past = previous :: past) :
    (Call.undo present).perform h =
      (.ok (some previous), { h with past := past, future := present :: h.future }) := by
  rw [Call.perform, stepWith, (undo_eq_ok_iff _ _ _ _).mpr ⟨past, hpast, rfl⟩]

theorem perform_redo {next : α} {future : List α} (hfuture : h.future = next :: future) :
    (Call.redo present).perform h =
      (.ok (some next), { h with past := present :: h.past, future := future }) := by
  rw [Call.perform, stepWith, (redo_eq_ok_iff _ _ _ _).mpr ⟨future, hfuture, rfl⟩]

/-- A step back is refused exactly if there is nothing behind. -/
theorem perform_undo_eq_error_iff (h : History α) (present : α) :
    ((Call.undo present).perform h).1 = .error .nothingToUndo ↔ h.undoDepth = 0 := by
  have hundo := undo_eq_error_iff h present .nothingToUndo
  rw [and_iff_left rfl] at hundo
  rw [undoDepth, List.length_eq_zero_iff, ← hundo, Call.perform, stepWith]
  rcases h.undo present with e | ⟨previous, h'⟩
  · simp
  · simp

/-- A step forth is refused exactly if there is nothing ahead. -/
theorem perform_redo_eq_error_iff (h : History α) (present : α) :
    ((Call.redo present).perform h).1 = .error .nothingToRedo ↔ h.redoDepth = 0 := by
  have hredo := redo_eq_error_iff h present .nothingToRedo
  rw [and_iff_left rfl] at hredo
  rw [redoDepth, List.length_eq_zero_iff, ← hredo, Call.perform, stepWith]
  rcases h.redo present with e | ⟨next, h'⟩
  · simp
  · simp

/-! ### The limit -/

/-- The states on both sides together are not more than the limit, if there is one. -/
def IsBounded (h : History α) : Prop :=
  ∀ n, h.limit = some n → h.undoDepth + h.redoDepth ≤ n

theorem IsBounded.length_past_le (hbounded : h.IsBounded) (hlimit : h.limit = some n) :
    h.past.length ≤ n :=
  Nat.le_trans (Nat.le_add_right _ _) (hbounded n hlimit)

/-- Where there were not too many states before, recording one more keeps to the limit. -/
theorem IsBounded.record (hbounded : h.IsBounded) (before : α) : (h.record before).IsBounded := by
  intro n hlimit
  change h.limit = some n at hlimit
  show (within h.limit (before :: h.past)).length + 0 ≤ n
  rw [hlimit]
  exact length_within_le (Nat.succ_le_succ (hbounded.length_past_le hlimit))

/-- One call keeps to the limit: a step moves a state, and the other calls leave nothing ahead. -/
theorem IsBounded.perform (hbounded : h.IsBounded) (call : Call α) :
    (call.perform h).2.IsBounded := by
  have hcall := outcome_perform call h
  cases hmoves : call.moves with
  | true =>
    intro n hlimit
    rw [hcall.limit] at hlimit
    rw [hcall.depth hmoves]
    exact hbounded n hlimit
  | false =>
    cases call with
    | record before => exact hbounded.record before
    | undo present => cases hmoves
    | redo present => cases hmoves
    | clear => exact fun n _ => Nat.zero_le n

theorem IsBounded.run (hbounded : h.IsBounded) (calls : List (Call α)) :
    (h.run calls).IsBounded := by
  induction calls generalizing h with
  | nil => exact hbounded
  | cons call calls ih => exact ih (hbounded.perform call)

theorem limit_run (h : History α) (calls : List (Call α)) : (h.run calls).limit = h.limit := by
  induction calls generalizing h with
  | nil => rfl
  | cons call calls ih => exact (ih _).trans (outcome_perform call h).limit

theorem Steps.limit (hsteps : h.Steps h') : h'.limit = h.limit := by
  rcases hsteps with rfl | ⟨call, rfl⟩
  · rfl
  · exact (outcome_perform call h).limit

theorem Steps.isBounded (hsteps : h.Steps h') (hbounded : h.IsBounded) : h'.IsBounded := by
  rcases hsteps with rfl | ⟨call, rfl⟩
  · exact hbounded
  · exact hbounded.perform call

theorem isBounded_empty (limit : Option Nat) : ({ limit := limit } : History α).IsBounded :=
  fun n _ => Nat.zero_le n

/-- Recording a state leaves the last ones, as many as the limit allows.  The oldest one alone is
forgotten, and that is enough since there were not too many before. -/
theorem IsBounded.reverse_past_record (hbounded : h.IsBounded) (before : α) :
    (h.record before).past.reverse = lastOf h.limit (h.past.reverse ++ [before]) := by
  show (within h.limit (before :: h.past)).reverse = _
  rw [← List.reverse_cons, lastOf.eq_def, within.eq_def]
  cases hlimit : h.limit with
  | none => rfl
  | some n =>
    -- By the bound there is one state too many at most.
    have hlength := hbounded.length_past_le hlimit
    dsimp only
    rw [List.length_reverse, List.length_cons]
    split
    · next hfull =>
      have hone : h.past.length + 1 - n = 1 := by omega
      rw [hone, List.drop_one, List.tail_reverse]
    · next hroom =>
      have hzero : h.past.length + 1 - n = 0 := by omega
      rw [hzero, List.drop_zero]

/-- **A history never holds more states than its limit**, on both sides together, whatever is done
with it.  Steps leave their number as it is.  Only a step is refused, and exactly if there is no
state on its side, and nothing changes then.  Recording keeps the last states behind, as many as the
limit allows, and leaves none ahead. -/
theorem depth_of_new {limit : Int} (hlimit : 1 ≤ limit) :
    ∃ h : History α, new (some limit) = .ok h ∧ ∀ calls : List (Call α),
      ((h.run calls).undoDepth + (h.run calls).redoDepth : Int) ≤ limit ∧
      (∀ call, call.moves = true →
        (h.run (calls ++ [call])).undoDepth + (h.run (calls ++ [call])).redoDepth =
          (h.run calls).undoDepth + (h.run calls).redoDepth) ∧
      (∀ call e, (call.perform (h.run calls)).1 = .error e →
        call.moves = true ∧ h.run (calls ++ [call]) = h.run calls) ∧
      (∀ present, (((Call.undo present).perform (h.run calls)).1 = .error .nothingToUndo ↔
          (h.run calls).undoDepth = 0) ∧
        (((Call.redo present).perform (h.run calls)).1 = .error .nothingToRedo ↔
          (h.run calls).redoDepth = 0)) ∧
      ∀ before,
        (h.run (calls ++ [.record before])).past.reverse =
          lastOf (some limit.toNat) ((h.run calls).past.reverse ++ [before]) ∧
        (h.run (calls ++ [.record before])).future = [] := by
  have hnew : (new (some limit) : Except HistoryError (History α)) =
      .ok { limit := some limit.toNat } := by
    rw [new, if_neg (by omega)]
  refine ⟨_, hnew, fun calls => ?_⟩
  have hreached := (isBounded_empty (α := α) (some limit.toNat)).run calls
  have hkept := limit_run ({ limit := some limit.toNat } : History α) calls
  refine ⟨?_, fun call hmoves => ?_, fun call e herror => ?_, fun present => ?_,
    fun before => ?_⟩
  · have hdepth := hreached _ hkept
    omega
  · rw [run_concat]
    exact (outcome_perform call _).depth hmoves
  · have hcall := outcome_perform call (run { limit := some limit.toNat } calls)
    rw [herror] at hcall
    rw [run_concat]
    exact hcall.refused
  · exact ⟨perform_undo_eq_error_iff _ present, perform_redo_eq_error_iff _ present⟩
  · have hlast := hreached.reverse_past_record before
    rw [hkept] at hlast
    rw [run_concat]
    exact ⟨hlast, rfl⟩

/-- Three states recorded where two are kept, a step back and a step forth again. -/
def fullCalls : List (Call String) :=
  [.record "a", .record "b", .record "c", .undo "d", .redo "e"]

/-- Redoing fills the history up to its limit.  Another step forth is refused, and another state
recorded makes the oldest one forgotten. -/
theorem depth_of_new_two :
    ∃ h : History String, new (some 2) = .ok h ∧
      ((h.run fullCalls).undoDepth + (h.run fullCalls).redoDepth : Int) ≤ 2 ∧
      (h.run fullCalls).past.reverse = ["b", "e"] ∧
      ((Call.redo "f").perform (h.run fullCalls)).1 = .error .nothingToRedo ∧
      h.run (fullCalls ++ [.redo "f"]) = h.run fullCalls ∧
      (h.run (fullCalls ++ [.record "f"])).past.reverse = ["e", "f"] := by
  have hlimit : (1 : Int) ≤ 2 := by decide
  obtain ⟨h, hnew, hcalls⟩ := depth_of_new (α := String) hlimit
  obtain ⟨hdepth, -, hrefused, hblocked, hrecord⟩ := hcalls fullCalls
  cases hnew
  have herror := (hblocked "f").2.mpr rfl
  exact ⟨_, rfl, hdepth, rfl, herror, (hrefused _ _ herror).2, (hrecord "f").1⟩

end Spreadsheet.History

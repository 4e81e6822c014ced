/-!
Actions: computations that change a state and may fail.

A failing action keeps the state that it has reached, so what was changed before the failure stays
changed.  The lemmas say what each way of building an action does in a state.
-/

namespace Spreadsheet

/-- A computation that answers or fails, and leaves a state either way. -/
def Action (ε σ α : Type) : Type :=
  σ → Except ε α × σ

namespace Action

variable {ε ε' σ τ α β : Type}

/-- Answers without a change. -/
protected def pure (a : α) : Action ε σ α :=
  fun s => (.ok a, s)

/-- One action after another; a failure of the first is a failure of both. -/
protected def bind (x : Action ε σ α) (f : α → Action ε σ β) : Action ε σ β :=
  fun s =>
    match x s with
    | (.ok a, s') => f a s'
    | (.error e, s') => (.error e, s')

instance : Monad (Action ε σ) where
  pure := Action.pure
  bind := Action.bind

/-- Fails without a change. -/
def fail (e : ε) : Action ε σ α :=
  fun s => (.error e, s)

/-- The state. -/
def state : Action ε σ σ :=
  fun s => (.ok s, s)

/-- Changes the state. -/
def update (f : σ → σ) : Action ε σ Unit :=
  fun s => (.ok (), f s)

/-- An answer or failure that needs no state, its failure put in other terms. -/
def ofExcept (wrap : ε' → ε) : Except ε' α → Action ε σ α
  | .ok a => Action.pure a
  | .error e => fail (wrap e)

/-- An action whose failure is an answer. -/
def attempt (x : Action ε' σ α) : Action ε σ (Except ε' α) :=
  fun s =>
    let (answer, s') := x s
    (.ok answer, s')

/-- An action on a part of the state. -/
def onPart (part : σ → τ) (replace : τ → σ → σ) (x : Action ε τ α) : Action ε σ α :=
  fun s =>
    let (answer, t) := x (part s)
    (answer, replace t s)

/-- An action whose failure is put in other terms. -/
def mapError (wrap : ε' → ε) (x : Action ε' σ α) : Action ε σ α :=
  fun s =>
    let (answer, s') := x s
    (answer.mapError wrap, s')

@[simp]
theorem pure_apply (a : α) (s : σ) : (pure a : Action ε σ α) s = (.ok a, s) :=
  rfl

theorem bind_apply (x : Action ε σ α) (f : α → Action ε σ β) (s : σ) :
    (x >>= f) s =
      match x s with
      | (.ok a, s') => f a s'
      | (.error e, s') => (.error e, s') :=
  rfl

theorem bind_apply_ok {x : Action ε σ α} {f : α → Action ε σ β} {s s' : σ} {a : α}
    (h : x s = (.ok a, s')) : (x >>= f) s = f a s' := by
  rw [bind_apply, h]

theorem bind_apply_error {x : Action ε σ α} {f : α → Action ε σ β} {s s' : σ} {e : ε}
    (h : x s = (.error e, s')) : (x >>= f) s = (.error e, s') := by
  rw [bind_apply, h]

@[simp]
theorem fail_apply (e : ε) (s : σ) : (fail e : Action ε σ α) s = (.error e, s) :=
  rfl

@[simp]
theorem state_apply (s : σ) : (state : Action ε σ σ) s = (.ok s, s) :=
  rfl

@[simp]
theorem update_apply (f : σ → σ) (s : σ) : (update f : Action ε σ Unit) s = (.ok (), f s) :=
  rfl

@[simp]
theorem attempt_apply (x : Action ε' σ α) (s : σ) :
    (attempt x : Action ε σ (Except ε' α)) s = (.ok (x s).1, (x s).2) :=
  rfl

@[simp]
theorem onPart_apply (part : σ → τ) (replace : τ → σ → σ) (x : Action ε τ α) (s : σ) :
    onPart part replace x s = ((x (part s)).1, replace (x (part s)).2 s) :=
  rfl

@[simp]
theorem mapError_apply (wrap : ε' → ε) (x : Action ε' σ α) (s : σ) :
    mapError wrap x s = ((x s).1.mapError wrap, (x s).2) :=
  rfl

end Action

end Spreadsheet

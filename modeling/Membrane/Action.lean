import Membrane.Store

/-! # Actions

An `Action ε α` works on the store and ends in one of four ways: with a result, with an error of
type `ε`, with a panic that nobody has contained yet, or because the steps granted to it ran out.
The store comes out in every case, so nothing that happened before an error is lost.

Main statements: `Action` is a lawful monad; `capture` never ends with an error (`capture_ne_error`),
and `contained` never with a panic (`contained_ne_panicked`).
-/

namespace Membrane

/-- How an action ends. -/
inductive Outcome (ε α : Type) where
  | ok (a : α)
  | error (e : ε)
  | panicked (payload : Panic)
  /-- The granted steps ran out. -/
  | exhausted

/-- A computation on the store. -/
def Action (ε α : Type) : Type := Store → Outcome ε α × Store

namespace Action

variable {ε ε' α β : Type}

/-- Runs an action on a store. -/
def run (act : Action ε α) (s : Store) : Outcome ε α × Store := act s

/-- The action that changes nothing and gives the result. -/
protected def pure (a : α) : Action ε α := fun s => (.ok a, s)

/-- The second action goes on with the result of the first, from the store that it left. Any other
end of the first is the end of both. -/
protected def bind (act : Action ε α) (next : α → Action ε β) : Action ε β := fun s =>
  match act s with
  | (.ok a, s) => next a s
  | (.error e, s) => (.error e, s)
  | (.panicked payload, s) => (.panicked payload, s)
  | (.exhausted, s) => (.exhausted, s)

instance : Monad (Action ε) where
  pure := Action.pure
  bind := Action.bind

theorem pure_apply (a : α) (s : Store) : (pure a : Action ε α) s = (.ok a, s) := rfl

theorem bind_apply (act : Action ε α) (next : α → Action ε β) (s : Store) :
    (act >>= next) s = match act s with
      | (.ok a, s) => next a s
      | (.error e, s) => (.error e, s)
      | (.panicked payload, s) => (.panicked payload, s)
      | (.exhausted, s) => (.exhausted, s) := rfl

/-- A sequence that gives a result has one of its first part to go on with. -/
theorem bind_eq_ok {act : Action ε α} {next : α → Action ε β} {s t : Store} {b : β}
    (h : (act >>= next) s = (.ok b, t)) : ∃ a u, act s = (.ok a, u) ∧ next a u = (.ok b, t) := by
  rw [bind_apply] at h
  generalize act s = r at h
  obtain ⟨o, u⟩ := r
  cases o with
  | ok a => exact ⟨a, u, rfl, h⟩
  | error e => cases h
  | panicked payload => cases h
  | exhausted => cases h

/-- A sequence that fails does so in its first part, or in the second after a result of the first. -/
theorem bind_eq_error {act : Action ε α} {next : α → Action ε β} {s t : Store} {e : ε}
    (h : (act >>= next) s = (.error e, t)) :
    act s = (.error e, t) ∨ ∃ a u, act s = (.ok a, u) ∧ next a u = (.error e, t) := by
  rw [bind_apply] at h
  generalize act s = r at h ⊢
  obtain ⟨o, u⟩ := r
  cases o with
  | ok a => exact .inr ⟨a, u, rfl, h⟩
  | error cause =>
    cases h
    exact .inl rfl
  | panicked payload => cases h
  | exhausted => cases h

/-- Handing the result on changes nothing. -/
private theorem bind_pure_id (act : Action ε α) : Action.bind act (fun a => Action.pure (id a)) = act := by
  funext s
  unfold Action.bind
  generalize act s = r
  obtain ⟨o, t⟩ := r
  cases o <;> rfl

/-- Actions in sequence may be grouped in either way. -/
private theorem bind_bind {γ : Type} (act : Action ε α) (f : α → Action ε β) (g : β → Action ε γ) :
    Action.bind (Action.bind act f) g = Action.bind act (fun a => Action.bind (f a) g) := by
  funext s
  unfold Action.bind
  generalize act s = r
  obtain ⟨o, t⟩ := r
  cases o <;> rfl

instance : LawfulMonad (Action ε) := LawfulMonad.mk' (Action ε)
  bind_pure_id (fun _ _ => rfl) bind_bind

/-- Ends with an error. -/
def throw (e : ε) : Action ε α := fun s => (.error e, s)

/-- Ends with a panic. -/
def panic (payload : Panic) : Action ε α := fun s => (.panicked payload, s)

/-- Ends because the granted steps ran out. -/
def exhausted : Action ε α := fun s => (.exhausted, s)

/-- The store. -/
def getStore : Action ε Store := fun s => (.ok s, s)

/-- A result that depends on the store and changes it. -/
def state (f : Store → α × Store) : Action ε α := fun s => (.ok (f s).1, (f s).2)

/-- A change of the store. -/
def modify (f : Store → Store) : Action ε Unit := fun s => (.ok (), f s)

/-- A result or an error that is there already. -/
def ofExcept : Except ε α → Action ε α
  | .ok a => pure a
  | .error e => throw e

/-- The result of a computation with a step limit. -/
def ofOption : Option α → Action ε α
  | some a => pure a
  | none => exhausted

/-- Changes the error, if there is one. -/
def mapError (f : ε → ε') (act : Action ε α) : Action ε' α := fun s =>
  match act s with
  | (.ok a, s) => (.ok a, s)
  | (.error e, s) => (.error (f e), s)
  | (.panicked payload, s) => (.panicked payload, s)
  | (.exhausted, s) => (.exhausted, s)

/-- Makes an error part of the result. -/
def capture (act : Action ε α) : Action ε' (Except ε α) := fun s =>
  match act s with
  | (.ok a, s) => (.ok (.ok a), s)
  | (.error e, s) => (.ok (.error e), s)
  | (.panicked payload, s) => (.panicked payload, s)
  | (.exhausted, s) => (.exhausted, s)

/-- Host code at the call boundary: a panic becomes an error. -/
def contained (act : Action HostError α) : Action HostError α := fun s =>
  match act s with
  | (.panicked payload, s) => (.error (.panicked payload.message), s)
  | r => r

/-- A result was one before its failures were renamed. -/
theorem mapError_eq_ok {f : ε → ε'} {act : Action ε α} {s t : Store} {a : α}
    (h : act.mapError f s = (.ok a, t)) : act s = (.ok a, t) := by
  unfold mapError at h
  generalize act s = r at h ⊢
  obtain ⟨o, u⟩ := r
  cases o with
  | ok b =>
    cases h
    rfl
  | error e => cases h
  | panicked payload => cases h
  | exhausted => cases h

/-- A renamed failure comes from one. -/
theorem mapError_eq_error {f : ε → ε'} {act : Action ε α} {s t : Store} {e : ε'}
    (h : act.mapError f s = (.error e, t)) : ∃ cause, act s = (.error cause, t) ∧ e = f cause := by
  unfold mapError at h
  generalize act s = r at h ⊢
  obtain ⟨o, u⟩ := r
  cases o with
  | ok b => cases h
  | error cause =>
    cases h
    exact ⟨cause, rfl, rfl⟩
  | panicked payload => cases h
  | exhausted => cases h

/-- A result has no failure to rename. -/
theorem ofExcept_mapError_ok (f : ε → ε') (a : α) :
    ofExcept ((Except.ok a).mapError f) = (pure a : Action ε' α) := rfl

/-- A captured failure is a result; a panic and an endless run are not captured. -/
theorem capture_apply (act : Action ε α) (s : Store) :
    (act.capture : Action ε' (Except ε α)) s = match act s with
      | (.ok a, s) => (.ok (.ok a), s)
      | (.error e, s) => (.ok (.error e), s)
      | (.panicked payload, s) => (.panicked payload, s)
      | (.exhausted, s) => (.exhausted, s) := rfl

/-- What captures its failures does not fail. -/
theorem capture_ne_error (act : Action ε α) (s : Store) (e : ε') :
    ((act.capture : Action ε' (Except ε α)) s).1 ≠ .error e := by
  unfold capture
  generalize act s = r
  obtain ⟨o, t⟩ := r
  cases o <;> simp

/-- A captured result is that of the action. -/
theorem capture_eq_ok {act : Action ε α} {s t : Store} {a : α}
    (h : (act.capture : Action ε' (Except ε α)) s = (.ok (.ok a), t)) : act s = (.ok a, t) := by
  rw [capture_apply] at h
  generalize act s = r at h ⊢
  obtain ⟨o, u⟩ := r
  cases o with
  | ok b =>
    cases h
    rfl
  | error cause => cases h
  | panicked payload => cases h
  | exhausted => cases h

/-- A captured failure is that of the action. -/
theorem capture_eq_error {act : Action ε α} {s t : Store} {e : ε}
    (h : (act.capture : Action ε' (Except ε α)) s = (.ok (.error e), t)) : act s = (.error e, t) := by
  rw [capture_apply] at h
  generalize act s = r at h ⊢
  obtain ⟨o, u⟩ := r
  cases o with
  | ok a => cases h
  | error cause =>
    cases h
    rfl
  | panicked payload => cases h
  | exhausted => cases h

/-- A captured error is part of the result, so a change of errors passes it by. -/
theorem mapError_capture {ε'' : Type} (f : ε' → ε'') (act : Action ε α) :
    (act.capture : Action ε' (Except ε α)).mapError f = act.capture := by
  funext s
  unfold mapError capture
  generalize act s = r
  obtain ⟨o, t⟩ := r
  cases o <;> rfl

/-- What contains its panics does not panic. -/
theorem contained_ne_panicked (act : Action HostError α) (s : Store) (payload : Panic) :
    ((act.contained) s).1 ≠ .panicked payload := by
  unfold contained
  generalize act s = r
  obtain ⟨o, t⟩ := r
  cases o <;> simp

end Action

end Membrane

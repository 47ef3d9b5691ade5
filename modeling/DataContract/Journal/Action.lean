/-
Actions on a state: what happens to it, what comes out, and what is written to the log.

An action that fails keeps the changes and the entries made until then.
-/
import DataContract.Journal.Basic

namespace DataContract

/-- A step from a state to the next, with a result that may be a failure. -/
def Action (σ ε α : Type) : Type :=
  σ → σ × Noted ε α

namespace Action

variable {σ τ ε δ α β : Type}

/-- Changes nothing. -/
def ok (a : α) : Action σ ε α := fun s => (s, .ok a)

/-- Fails, changing nothing. -/
def fail (e : ε) : Action σ ε α := fun s => (s, .fail e)

/-- Goes on from the state and the value reached. -/
def andThen (x : Action σ ε α) (f : α → Action σ ε β) : Action σ ε β := fun s =>
  let (t, done) := x s
  match done.result with
  | .ok a =>
    let (u, next) := f a t
    (u, ⟨next.result, done.notes ++ next.notes⟩)
  | .error e => (t, ⟨.error e, done.notes⟩)

instance : Monad (Action σ ε) where
  pure := ok
  bind := andThen

/-- The state. -/
def state : Action σ ε σ := fun s => (s, .ok s)

/-- Puts another state in its place. -/
def replace (s : σ) : Action σ ε Unit := fun _ => (s, .ok ())

/-- Changes the state. -/
def update (f : σ → σ) : Action σ ε Unit := fun s => (f s, .ok ())

/-- A computation that leaves the state alone. -/
def noted (x : Noted ε α) : Action σ ε α := fun s => (s, x)

/-- A result that leaves the state alone. -/
def of (r : Except ε α) : Action σ ε α := fun s => (s, .of r)

/-- Writes an entry. -/
def note (entry : LogEntry) : Action σ ε Unit := fun s => (s, .note entry)

/-- The same with the failure turned into another. -/
def mapError (f : ε → δ) (x : Action σ ε α) : Action σ δ α := fun s =>
  let (t, done) := x s
  (t, done.mapError f)

/-- An action on a part of the state. -/
def zoom (part : σ → τ) (put : σ → τ → σ) (x : Action τ ε α) : Action σ ε α := fun s =>
  let (t, done) := x (part s)
  (put s t, done)

/-- Turns a failure into a value. -/
def attempt (x : Action σ ε α) : Action σ δ (Except ε α) := fun s =>
  let (t, done) := x s
  (t, ⟨.ok done.result, done.notes⟩)

end Action

end DataContract

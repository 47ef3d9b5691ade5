/-
Results that may be failures, taken apart.

A step followed by another succeeds if both do, and fails with the first failure
(`bind_eq_ok_iff`, `bind_eq_error_iff`, `both_fail_iff`). The same for computations that write
entries and for actions on a state: `Noted.result_bind`, `Noted.bind_eq_ok_iff`,
`Action.bind_of_ok`, `Action.bind_of_error`.

Two actions are alike (`Action.Alike`) if from states in a relation they come to the same result,
with the same entries, and to states in that relation.
-/
import Mathlib
import DataContract.Journal.Action

namespace DataContract

variable {σ ε α β γ : Type}

theorem bind_eq_ok_iff {x : Except ε α} {f : α → Except ε β} {b : β} :
    (x >>= f) = .ok b ↔ ∃ a, x = .ok a ∧ f a = .ok b := by
  cases x <;> simp [bind, Except.bind]

theorem bind_eq_error_iff {x : Except ε α} {f : α → Except ε β} {e : ε} :
    (x >>= f) = .error e ↔ x = .error e ∨ ∃ a, x = .ok a ∧ f a = .error e := by
  cases x <;> simp [bind, Except.bind]

theorem pure_eq_ok_iff {a b : α} : (pure a : Except ε α) = .ok b ↔ a = b := by
  simp [pure, Except.pure]

theorem pure_ne_error {a : α} {e : ε} : (pure a : Except ε α) ≠ .error e := by
  simp [pure, Except.pure]

theorem map_eq_ok_iff {x : Except ε α} {g : α → β} {b : β} :
    x.map g = .ok b ↔ ∃ a, x = .ok a ∧ g a = b := by
  cases x <;> simp [Except.map]

theorem mapError_eq_ok_iff {δ : Type} {x : Except ε α} {f : ε → δ} {a : α} :
    x.mapError f = .ok a ↔ x = .ok a := by
  cases x <;> simp [Except.mapError]

theorem mapError_eq_error_iff {δ : Type} {x : Except ε α} {f : ε → δ} {d : δ} :
    x.mapError f = .error d ↔ ∃ e, x = .error e ∧ f e = d := by
  cases x <;> simp [Except.mapError]

/-- A result is a failure exactly if it is no value. -/
theorem exists_error_iff {x : Except ε α} : (∃ e, x = .error e) ↔ ¬∃ a, x = .ok a := by
  cases x <;> simp

/-- Where there is one failure only, it does not matter how far the first step came. -/
theorem error_or_iff [Subsingleton ε] {x : Except ε α} {e : ε} {p : Prop} :
    (x = .error e ∨ ∃ a, x = .ok a ∧ p) ↔ x = .error e ∨ p := by
  cases x with
  | ok a => simp
  | error d => simp [Subsingleton.elim d e]

/-- Two steps, of which the second does not look at what the first came to, fail if one of them
does. -/
theorem both_fail_iff {x : Except ε α} {y : Except ε β} {g : α → β → γ} :
    (∃ e, (do let a ← x; let b ← y; return g a b) = .error e) ↔
      (∃ e, x = .error e) ∨ ∃ e, y = .error e := by
  cases x with
  | error d => exact ⟨fun _ => .inl ⟨d, rfl⟩, fun _ => ⟨d, rfl⟩⟩
  | ok a =>
    cases y with
    | error d => exact ⟨fun _ => .inr ⟨d, rfl⟩, fun _ => ⟨d, rfl⟩⟩
    | ok b =>
      refine ⟨fun ⟨e, h⟩ => absurd h pure_ne_error, ?_⟩
      rintro (⟨_, ⟨⟩⟩ | ⟨_, ⟨⟩⟩)

namespace Noted

theorem result_bind (x : Noted ε α) (f : α → Noted ε β) :
    (x >>= f).result = x.result >>= fun a => (f a).result := by
  show (andThen x f).result = _
  rw [andThen]
  split <;> rename_i h <;> rw [h] <;> rfl

variable {x : Noted ε α} {f : α → Noted ε β} {a : α} {b : β} {notes : List LogEntry}

/-- A step followed by another succeeds if both do, with the entries of both. -/
theorem bind_eq_ok_iff : (x >>= f) = ⟨.ok b, notes⟩ ↔
    ∃ a first second, x = ⟨.ok a, first⟩ ∧ f a = ⟨.ok b, second⟩ ∧ notes = first ++ second := by
  obtain ⟨result, written⟩ := x
  show andThen _ f = _ ↔ _
  cases result with
  | error e =>
    constructor
    · rintro ⟨⟩
    · rintro ⟨_, _, _, ⟨⟩, -⟩
  | ok a =>
    constructor
    · intro h
      obtain ⟨result, rfl⟩ := Noted.mk.inj h
      refine ⟨a, written, (f a).notes, rfl, ?_, rfl⟩
      rw [← result]
    · rintro ⟨_, _, second, ⟨⟩, hf, rfl⟩
      simp only [andThen, hf]

theorem of_eq_ok_iff {r : Except ε α} : Noted.of r = ⟨.ok a, notes⟩ ↔ r = .ok a ∧ notes = [] := by
  rw [Noted.of, Noted.mk.injEq, @eq_comm _ [] notes]

theorem pure_eq_ok_iff {c : α} : (pure c : Noted ε α) = ⟨.ok a, notes⟩ ↔ c = a ∧ notes = [] := by
  show Noted.mk (.ok c) [] = _ ↔ _
  rw [Noted.mk.injEq, Except.ok.injEq, @eq_comm _ [] notes]

/-- A step that writes nothing is passed over. -/
theorem of_bind_eq_ok_iff {r : Except ε α} :
    (Noted.of r >>= f) = ⟨.ok b, notes⟩ ↔ ∃ a, r = .ok a ∧ f a = ⟨.ok b, notes⟩ := by
  simp only [bind_eq_ok_iff, of_eq_ok_iff]
  constructor
  · rintro ⟨a, _, second, ⟨hr, rfl⟩, hf, rfl⟩
    exact ⟨a, hr, hf⟩
  · rintro ⟨a, hr, hf⟩
    exact ⟨a, [], notes, ⟨hr, rfl⟩, hf, rfl⟩

theorem bind_pure_eq_ok_iff {g : α → β} : (do let a ← x; return g a : Noted ε β) = ⟨.ok b, notes⟩ ↔
    ∃ a, g a = b ∧ x = ⟨.ok a, notes⟩ := by
  simp only [bind_eq_ok_iff, pure_eq_ok_iff]
  constructor
  · rintro ⟨a, first, _, rfl, ⟨rfl, rfl⟩, rfl⟩
    exact ⟨a, rfl, by rw [List.append_nil]⟩
  · rintro ⟨a, rfl, rfl⟩
    exact ⟨a, notes, [], rfl, ⟨rfl, rfl⟩, by rw [List.append_nil]⟩

/-- A list is come to exactly if its first element is, and then the others. -/
theorem bind_cons_eq_ok_iff {y : Noted ε (List α)} {all : List α} :
    (do let a ← x; let rest ← y; return a :: rest : Noted ε (List α)) = ⟨.ok all, notes⟩ ↔
      ∃ a rest first after, all = a :: rest ∧ notes = first ++ after ∧
        x = ⟨.ok a, first⟩ ∧ y = ⟨.ok rest, after⟩ := by
  simp only [bind_eq_ok_iff, @bind_pure_eq_ok_iff _ _ _ y]
  constructor
  · rintro ⟨a, first, after, hx, ⟨rest, rfl, hy⟩, rfl⟩
    exact ⟨a, rest, first, after, rfl, rfl, hx, hy⟩
  · rintro ⟨a, rest, first, after, rfl, rfl, hx, hy⟩
    exact ⟨a, first, after, hx, ⟨rest, rfl, hy⟩, rfl⟩

theorem noteAll_pure_eq_ok_iff {entries : List LogEntry} {c : α} :
    (do Noted.noteAll entries; return c : Noted ε α) = ⟨.ok a, notes⟩ ↔
      c = a ∧ notes = entries := by
  show Noted.mk (.ok c) (entries ++ []) = _ ↔ _
  rw [List.append_nil, Noted.mk.injEq, Except.ok.injEq, @eq_comm _ entries notes]

theorem mapError_eq_ok_iff {δ : Type} {g : ε → δ} :
    x.mapError g = ⟨.ok a, notes⟩ ↔ x = ⟨.ok a, notes⟩ := by
  obtain ⟨result, written⟩ := x
  rw [mapError, Noted.mk.injEq, Noted.mk.injEq, DataContract.mapError_eq_ok_iff]

theorem result_eq_ok_iff : x.result = .ok a ↔ ∃ notes, x = ⟨.ok a, notes⟩ := by
  constructor
  · intro h
    exact ⟨x.notes, by rw [← h]⟩
  · rintro ⟨notes, rfl⟩
    rfl

end Noted

namespace Action

/-- An action that goes on from a value ends as the second step does. -/
theorem bind_of_ok {x : Action σ ε α} {f : α → Action σ ε β} {s : σ} {a : α}
    (h : (x s).2.result = .ok a) :
    ((x >>= f) s).1 = (f a (x s).1).1 ∧ ((x >>= f) s).2.result = (f a (x s).1).2.result := by
  show (andThen x f s).1 = _ ∧ (andThen x f s).2.result = _
  simp only [andThen, h, and_self]

/-- An action that fails at its first step ends there. -/
theorem bind_of_error {x : Action σ ε α} {f : α → Action σ ε β} {s : σ} {e : ε}
    (h : (x s).2.result = .error e) :
    ((x >>= f) s).1 = (x s).1 ∧ ((x >>= f) s).2.result = .error e := by
  show (andThen x f s).1 = _ ∧ (andThen x f s).2.result = _
  simp only [andThen, h, and_self]

/-- Steps that agree on every value reached make actions that agree. -/
theorem bind_congr {x : Action σ ε α} {f g : α → Action σ ε β} {s : σ}
    (h : ∀ a, (x s).2.result = .ok a → f a (x s).1 = g a (x s).1) : (x >>= f) s = (x >>= g) s := by
  show andThen x f s = andThen x g s
  cases hx : (x s).2.result with
  | ok a => simp only [andThen, hx, h a hx]
  | error e => simp only [andThen, hx]

theorem andThen_ok (x : Action σ ε α) : andThen x ok = x := by
  funext s
  cases hx : (x s).2.result with
  | ok a =>
    simp only [andThen, hx, ok, Noted.ok, List.append_nil]
    rw [← hx]
  | error e =>
    simp only [andThen, hx]
    rw [← hx]

theorem ok_andThen (a : α) (f : α → Action σ ε β) : andThen (ok a) f = f a := by
  funext s
  simp only [andThen, ok, Noted.ok, List.nil_append]

theorem andThen_assoc (x : Action σ ε α) (f : α → Action σ ε β) (g : β → Action σ ε γ) :
    andThen (andThen x f) g = andThen x fun a => andThen (f a) g := by
  funext s
  cases hx : (x s).2.result with
  | ok a =>
    cases hf : (f a (x s).1).2.result with
    | ok b => simp only [andThen, hx, hf, List.append_assoc]
    | error e => simp only [andThen, hx, hf]
  | error e => simp only [andThen, hx]

instance : LawfulMonad (Action σ ε) :=
  LawfulMonad.mk' _ andThen_ok ok_andThen andThen_assoc

theorem mapError_bind {δ : Type} (h : ε → δ) (x : Action σ ε α) (f : α → Action σ ε β) :
    mapError h (x >>= f) = mapError h x >>= fun a => mapError h (f a) := by
  funext s
  show mapError h (andThen x f) s = andThen (mapError h x) (fun a => mapError h (f a)) s
  cases hx : (x s).2.result with
  | ok a => simp only [mapError, andThen, Noted.mapError, hx, Except.mapError]
  | error e => simp only [mapError, andThen, Noted.mapError, hx, Except.mapError]

/-! ### Two runs -/

/-- Two actions that cannot be told apart from states in a relation: they come to the same result
and write the same entries, and the states they leave are in the relation again. -/
def Alike (R : σ → σ → Prop) (x y : Action σ ε α) : Prop :=
  ∀ s t, R s t → (x s).2 = (y t).2 ∧ R (x s).1 (y t).1

namespace Alike

variable {R : σ → σ → Prop} {x y : Action σ ε α} {f g : α → Action σ ε β}

/-- What does not look at the state is alike. -/
theorem noted (r : Noted ε α) : Alike R (Action.noted r) (Action.noted r) :=
  fun _ _ related => ⟨rfl, related⟩

theorem of (r : Except ε α) : Alike R (Action.of r) (Action.of r) :=
  noted (.of r)

theorem note (entry : LogEntry) :
    Alike R (Action.note entry : Action σ ε Unit) (Action.note entry) :=
  noted (.note entry)

theorem fail (e : ε) : Alike R (Action.fail e : Action σ ε α) (Action.fail e) :=
  noted (.fail e)

theorem pure (a : α) : Alike R (Pure.pure a : Action σ ε α) (Pure.pure a) :=
  noted (.ok a)

theorem bind (first : Alike R x y) (next : ∀ a, Alike R (f a) (g a)) :
    Alike R (x >>= f) (y >>= g) := by
  intro s t related
  obtain ⟨same, after⟩ := first s t related
  show (andThen x f s).2 = (andThen y g t).2 ∧ R (andThen x f s).1 (andThen y g t).1
  cases hx : (x s).2.result with
  | ok a =>
    have hy : (y t).2.result = .ok a := same ▸ hx
    obtain ⟨same', after'⟩ := next a _ _ after
    simp only [andThen, same, hy, same', true_and]
    exact after'
  | error e =>
    have hy : (y t).2.result = .error e := same ▸ hx
    simp only [andThen, same, hy, true_and]
    exact after

/-- Actions that look at the state and go on alike from related ones. -/
theorem state {f g : σ → Action σ ε α} (next : ∀ s t, R s t → Alike R (f s) (g t)) :
    Alike R (Action.state >>= f) (Action.state >>= g) :=
  fun s t related => next s t related s t related

theorem mapError {δ : Type} (h : ε → δ) (alike : Alike R x y) :
    Alike R (x.mapError h) (y.mapError h) := by
  intro s t related
  obtain ⟨same, after⟩ := alike s t related
  exact ⟨congrArg (Noted.mapError h) same, after⟩

theorem update {change : σ → σ} (kept : ∀ s t, R s t → R (change s) (change t)) :
    Alike R (Action.update change : Action σ ε Unit) (Action.update change) :=
  fun s t related => ⟨rfl, kept s t related⟩

/-- An action on a part that is the same in related states. -/
theorem zoom {part : σ → τ} {put : σ → τ → σ} (z : Action τ ε α)
    (same : ∀ s t, R s t → part s = part t) (kept : ∀ s t p, R s t → R (put s p) (put t p)) :
    Alike R (Action.zoom part put z) (Action.zoom part put z) := by
  intro s t related
  show (z (part s)).2 = (z (part t)).2 ∧ R (put s (z (part s)).1) (put t (z (part t)).1)
  rw [same s t related]
  exact ⟨rfl, kept s t _ related⟩

end Alike

end Action

end DataContract

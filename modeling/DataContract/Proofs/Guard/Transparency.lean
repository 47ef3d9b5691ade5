/-
A guard that lets a call through does not change it.

What a call binds to the parameters, completed with the defaults, holds one argument for each of
them. A guard puts the watched argument before the policy and passes all of them on, by position as
far as possible and then by name. Passed on, they are bound just as they were
(`Signature.assign_spread_complete`), so the function sees what it would have seen without the guard
(`guarded_call_transparent`).
-/
import DataContract.Proofs.Guard.Decision

namespace DataContract

namespace Signature

variable {s : Signature} {positions : List Argument} {named given : NamedArguments}

theorem assign_of_bind (accepted : s.bind positions named = .ok given) :
    s.assign positions named = .ok (s.complete given) := by
  rw [assign, accepted]
  rfl

/-- A call that fits has one argument for each parameter, in their order. -/
theorem names_assign {bound : NamedArguments} (h : Lawful s)
    (hb : s.assign positions named = .ok bound) : bound.map (·.1) = s.map (·.name) := by
  obtain ⟨arg, -, rfl⟩ := assign_listed h hb
  rw [listed, List.map_map]
  rfl

/-- The arguments of a call that fits, passed on with one of them put in its own place, are assigned
as they were. -/
theorem assign_spread_complete {p : Parameter} (h : Lawful s)
    (accepted : s.bind positions named = .ok given) (mem : p ∈ s) :
    ∃ a, (s.complete given).argument? p.name = some a ∧
      let passed := s.spread ((s.complete given).put p.name a)
      s.assign passed.1 passed.2 = .ok (s.complete given) := by
  obtain ⟨arg, fits, listed⟩ := assign_listed h (assign_of_bind accepted)
  rw [listed]
  refine ⟨arg p, argument?_listed arg h mem, ?_⟩
  rw [put_listed arg h mem]
  exact assign_spread h fits

end Signature

namespace GuardedFunction

variable {g : GuardedFunction} {s : Surroundings} {bound : NamedArguments} {a : Argument} {h : Host}

/-- The guard lets through what is valid, and under a policy that is not strict all else. -/
theorem decision_of_lenient {p : Policy} {r : ValidationResult} {label : String}
    (hl : g.contract.display = .ok label)
    (hm : (Policy.make s g.guard.strict (g.guard.sourceAt g.function bound) h).2.result = .ok p)
    (hv : (validate (h.store.ownerOf p.source) g.contract a.value).result = .ok r)
    (through : r.valid = true ∨ p.strict.truthy = false ∧ ¬IsOverlong r.violations.length) :
    (g.decision s bound a h).2.result = .ok a.value := by
  obtain ⟨-, store, -⟩ := Policy.make_eq_ok hm
  rw [← store] at hv
  rw [decision_of_policy hm, mapError_eq_ok_iff]
  cases valid : r.valid with
  | true =>
    rw [(Policy.enforce_of_valid hl hv valid).2, (of_valid hv valid).1]
  | false =>
    obtain ⟨lenient, few⟩ := through.resolve_left (by simp [valid])
    rw [(Policy.enforce_of_invalid ⟨_, rfl⟩ hl hv valid few).2, Policy.verdict, lenient]
    rfl

end GuardedFunction

/-- Whatever call a function accepts, its guard finds the watched argument among those bound, and if
it lets the call through, which it does with valid arguments and under a policy that is not strict
with all, passing the arguments on succeeds and the function sees each parameter's argument as it
was bound, or its default. -/
theorem guarded_call_transparent {g : Guard} {f : Function} {gd : GuardedFunction}
    (lawful : f.signature.Lawful) (set : (g.setOn f).result = .ok gd) (s : Surroundings)
    (arguments : List Value) (named : List (String × Value)) (h : Host) {given : NamedArguments}
    (accepted : f.signature.bind (f.positions arguments) (GuardedFunction.passedNames named) =
      .ok given) :
    (f.signature.complete given).map (·.1) = f.signature.map (·.name) ∧
    ∃ a, (f.signature.complete given).argument? gd.watched = some a ∧
      (∀ v, (gd.decision s (f.signature.complete given) a h).2.result = .ok v →
        let passed := f.signature.spread
          ((f.signature.complete given).put gd.watched { a with value := v })
        f.signature.assign passed.1 passed.2 = .ok (f.signature.complete given) ∧
          (gd.call s arguments named h).2.result = .ok (f.signature.complete given)) ∧
      ∀ p r, (Policy.make s g.strict (g.sourceAt f (f.signature.complete given)) h).2.result =
          .ok p →
        (validate (h.store.ownerOf p.source) g.contract a.value).result = .ok r →
        r.valid = true ∨ p.strict.truthy = false ∧ ¬IsOverlong r.violations.length →
          (gd.call s arguments named h).2.result = .ok (f.signature.complete given) := by
  obtain ⟨rfl, rfl, ⟨label, hl⟩, q, mem, name⟩ := Guard.setOn_eq_ok set
  have bound := Signature.assign_of_bind accepted
  obtain ⟨a, found, again⟩ := Signature.assign_spread_complete lawful accepted mem
  obtain ⟨b, hb, hc⟩ := GuardedFunction.call_of_bound (h := h) (s := s) (g := gd) lawful
    ⟨label, hl⟩ ⟨q, mem, name⟩ bound
  rw [name] at found again
  obtain rfl := Option.some.inj (found.symm.trans hb)
  -- once the decision is made, nothing but the bound arguments is left to come back
  have seen : ∀ v, (gd.decision s (gd.function.signature.complete given) a h).2.result = .ok v →
      (gd.call s arguments named h).2.result = .ok (gd.function.signature.complete given) := by
    intro v hd
    rw [hc, GuardedFunction.result_of_bind, hd]
    rfl
  refine ⟨Signature.names_assign lawful bound, a, found, fun v hd => ⟨?_, seen v hd⟩, ?_⟩
  · obtain rfl := GuardedFunction.decision_eq_ok ⟨label, hl⟩ hd
    exact again
  · intro p r hm hv through
    exact seen _ (GuardedFunction.decision_of_lenient hl hm hv through)

/-- A lenient guard hands on an argument that violates its contract, what was collected by position,
and an argument by name that is collected although a parameter that goes by position alone bears its
name. -/
theorem submit_seen :
    ((guardedSubmit [] false).call default
        [.text "sent", .map [(.text "code", .int 1)], .int 7, .null]
        [("page", .int 1), ("request", .text "again")] Host.fresh).2.result =
      .ok [("request", .passed (.text "sent")), ("data", .passed (.map [(.text "code", .int 1)])),
        ("rest", .made (.tuple [.int 7, .null])), ("note", .made .null),
        ("others", .made (.map [(.text "page", .int 1), (.text "request", .text "again")]))] := by
  have set : ((guardedSubmit [] false).guard.setOn submit).result =
      .ok (guardedSubmit [] false) := by
    cbv
  have accepted : submit.signature.bind
      (submit.positions [.text "sent", .map [(.text "code", .int 1)], .int 7, .null])
      (GuardedFunction.passedNames [("page", .int 1), ("request", .text "again")]) =
        .ok [("request", .passed (.text "sent")),
          ("data", .passed (.map [(.text "code", .int 1)])),
          ("rest", .made (.tuple [.int 7, .null])),
          ("others", .made (.map [(.text "page", .int 1), (.text "request", .text "again")]))] := by
    cbv
  obtain ⟨-, a, found, -, through⟩ := guarded_call_transparent (by decide) set default
    [.text "sent", .map [(.text "code", .int 1)], .int 7, .null]
    [("page", .int 1), ("request", .text "again")] Host.fresh accepted
  obtain rfl : Argument.passed (.map [(.text "code", .int 1)]) = a := by
    refine Option.some.inj (Eq.trans ?_ found)
    cbv
  have outcome : (validate (.value (.map [(.text "parcel", (parcel []).toValue)]))
      (.text "parcel") (.map [(.text "code", .int 1)])).result =
        .ok (.error [⟨"code", "expected string, got integer", []⟩]) := by
    cbv
  exact through ⟨.bool false, _⟩ _ rfl outcome (.inr ⟨rfl, not_isOverlong_of_lt (by decide)⟩)

end DataContract

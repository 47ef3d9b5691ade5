/-
What is put before a policy is judged, and the judgement is counted.

Where the validation comes to an outcome, a check is judged by it and by the strictness of the policy
(`Check.judgement?`). Putting data before a policy counts the judgement, in its own cell of the
tally (`Check.count_enforce`), and leads to what it says: data that is rejected is refused, all
other data is answered (`Check.leads`).
-/
import DataContract.Proofs.Guard.Enforcement

namespace DataContract

/-! ### Tallies -/

namespace Tally

/-- Counting adds one to one cell. -/
theorem count_add (t : Tally) (label l : String) (d e : Decision) :
    (t.add label d).count l e = t.count l e + if (label, d) = (l, e) then 1 else 0 := by
  -- a cell keeps its labels, so it is found before exactly if it is found afterwards
  let raised (x : (String × Decision) × Nat) : (String × Decision) × Nat :=
    if x.1 = (label, d) then (x.1, x.2 + 1) else x
  have kept : ∀ x, (raised x).1 = x.1 := fun x => by
    simp only [raised]
    split <;> rfl
  by_cases counted : t.counts.any (·.1 = (label, d)) = true
  · have found : (t.counts.map raised).find? (·.1 = (l, e)) =
        (t.counts.find? (·.1 = (l, e))).map raised := by
      rw [List.find?_map]
      congr 2
      funext x
      simp only [Function.comp_apply, kept]
    rw [add, if_pos counted, count, count]
    show (((t.counts.map raised).find? (·.1 = (l, e))).map (·.2)).getD 0 = _
    rw [found]
    cases hx : t.counts.find? (·.1 = (l, e)) with
    | none =>
      have other : (label, d) ≠ (l, e) := by
        rintro same
        obtain ⟨x, mem, hx'⟩ := List.any_eq_true.mp counted
        exact List.find?_eq_none.mp hx x mem (same ▸ hx')
      rw [if_neg other]
      rfl
    | some x =>
      have at' : x.1 = (l, e) := by simpa using List.find?_some hx
      simp only [Option.map_some, Option.getD_some, raised, at', eq_comm (a := (l, e))]
      split <;> rfl
  · rw [add, if_neg counted, count, count, List.find?_append]
    have new : ∀ x ∈ t.counts, x.1 ≠ (label, d) := fun x mem at' =>
      counted (List.any_eq_true.mpr ⟨x, mem, decide_eq_true at'⟩)
    by_cases same : (label, d) = (l, e)
    · have absent : t.counts.find? (·.1 = (l, e)) = none :=
        List.find?_eq_none.mpr fun x mem => by simpa [← same] using new x mem
      rw [absent, if_pos same, same]
      simp
    · rw [if_neg same]
      simp [same]

end Tally

/-! ### Checks -/

/-- What is put before a policy: data, with the name of its contract, and the registries as they
are then. -/
structure Check where
  policy : Policy
  name : Value
  data : Value
  store : Store

namespace Check

/-- What the validation comes to. -/
def outcome (c : Check) : Except CheckFault ValidationResult :=
  (validate (c.store.ownerOf c.policy.source) c.name c.data).result

/-- The decision on an outcome. -/
def decision (c : Check) (r : ValidationResult) : Decision :=
  if r.valid then .passed else if c.policy.strict.truthy then .rejected else .warned

/-- The label of the contract and the decision, if the validation comes to an outcome. -/
def judgement? (c : Check) : Option (String × Decision) :=
  match c.name.display, c.outcome with
  | .ok label, .ok r => some (label, c.decision r)
  | _, _ => none

/-- The number of violations can be written. -/
def Countable (c : Check) : Prop :=
  ∀ r, c.outcome = .ok r → ¬IsOverlong r.violations.length

/-- What a check can lead to. -/
inductive Leads (c : Check) : Except EnforcementFault Value → Prop where
  | returns {label : String} {d : Decision} (judged : c.judgement? = some (label, d))
    (through : d ≠ .rejected) : Leads c (.ok c.data)
  | refuses {label : String} (violations : List Violation) (shown : c.name.display = .ok label)
    (judged : c.judgement? = some (label, .rejected)) :
    Leads c (.error (.refused ⟨violations, some c.name⟩))
  | fails (e : CheckFault) (unjudged : c.judgement? = none) : Leads c (.error (.check e))

variable {c : Check} {r : ValidationResult} {label : String}

theorem judgement?_of_ok (shown : c.name.display = .ok label) (ho : c.outcome = .ok r) :
    c.judgement? = some (label, c.decision r) := by
  rw [judgement?, shown, ho]

theorem judgement?_of_error {e : CheckFault} (ho : c.outcome = .error e) :
    c.judgement? = none := by
  rw [judgement?, ho]
  cases c.name.display <;> rfl

section Enforce

variable (p : Policy) (name data target : Value) (h : Host)

/-- A check counts in the cell of its judgement, and in no other. -/
theorem count_enforce (l : String) (e : Decision) :
    (p.enforce name data target h).1.tally.count l e = h.tally.count l e +
      if (Check.mk p name data h.store).judgement? = some (l, e) then 1 else 0 := by
  cases ho : (Check.mk p name data h.store).outcome with
  | error fault =>
    rw [(Policy.enforce_of_error ho).1, judgement?_of_error ho]
    rfl
  | ok r =>
    obtain ⟨label, shown⟩ := Policy.exists_label_of_validate ho
    rw [Policy.enforce_tally shown ho, judgement?_of_ok shown ho]
    simp only [Option.some.injEq]
    exact Tally.count_add h.tally label l _ e

theorem leads (ht : ∃ place, target.display = .ok place)
    (countable : (Check.mk p name data h.store).Countable) :
    (Check.mk p name data h.store).Leads (p.enforce name data target h).2.result := by
  cases ho : (Check.mk p name data h.store).outcome with
  | error fault =>
    rw [(Policy.enforce_of_error ho).2]
    exact .fails fault (judgement?_of_error ho)
  | ok r =>
    obtain ⟨label, shown⟩ := Policy.exists_label_of_validate ho
    have judged := judgement?_of_ok shown ho
    cases valid : r.valid with
    | true =>
      simp only [decision, valid, if_true] at judged
      rw [(Policy.enforce_of_valid shown ho valid).2, (of_valid ho valid).1]
      exact .returns judged (by decide)
    | false =>
      rw [(Policy.enforce_of_invalid ht shown ho valid (countable r ho)).2, Policy.verdict]
      simp only [decision, valid, Bool.false_eq_true, if_false] at judged
      cases strict : p.strict.truthy with
      | true =>
        simp only [strict, if_true] at judged
        exact .refuses r.violations shown judged
      | false =>
        simp only [strict, Bool.false_eq_true, if_false] at judged
        exact .returns judged (by decide)

end Enforce

end Check

end DataContract

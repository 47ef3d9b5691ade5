/-
The outcome of a validation.

A name that is not found, data that is no map, and the violations of a contract's fields are the
three ways to an outcome: `validate_of_unknown`, `Contract.validate_of_not_map`,
`Contract.validate_of_map`. Telling of a rejection never fails, as a name that is found is a text
(`validate_of_known`). `validate_eq_ok` puts them together.
-/
import DataContract.Registry.Owner
import DataContract.Proofs.Validation.Report

namespace DataContract

variable {o : Owner} {name data : Value} {c : Contract}

theorem Owner.asText_of_find (h : o.find? name = some c) : ∃ s, name.asText? = some s := by
  rw [Owner.find?, Option.bind_eq_some_iff] at h
  obtain ⟨s, hs, -⟩ := h
  exact ⟨s, hs⟩

theorem validate_of_unknown (h : o.find? name = none) :
    (validate o name data).result = unknownContract name := by
  rw [validate, h]
  rfl

theorem validate_of_known (h : o.find? name = some c) :
    (validate o name data).result = c.validate data := by
  obtain ⟨s, hs⟩ := Owner.asText_of_find h
  -- the name is a text, and so is everything that the entry on a rejection says
  have told : ∀ vs, ∃ entry, rejectedNote name vs = .ok entry := by
    intro vs
    rw [rejectedNote, Value.display_of_asText hs]
    exact ⟨_, rfl⟩
  rw [validate, h]
  simp only
  split
  · rename_i e hv
    exact hv.symm
  · rename_i outcome _ hv
    exact hv.symm
  · rename_i outcome _ hv
    split
    · exact hv.symm
    · obtain ⟨entry, he⟩ := told outcome.violations
      rw [he, Noted.result_bind]
      exact hv.symm

theorem unknownContract_eq_ok_iff {r : ValidationResult} :
    unknownContract name = .ok r ↔ ∃ text, name.display = .ok text ∧
      r = .error [⟨contractField, "contract " ++ text ++ " not found", []⟩] := by
  rw [unknownContract, bind_eq_ok_iff]
  cases name.display with
  | ok text => simp only [CheckFault.ofText, Except.ok.injEq, exists_eq_left', pure_eq_ok_iff,
      eq_comm (b := r)]
  | error e => simp [CheckFault.ofText]

namespace Contract

theorem validate_of_not_map (h : data.asEntries? = none) :
    c.validate data = .ok (.error [⟨rootField, "expected map, got " ++ data.kindName, []⟩]) := by
  rw [validate, h]

theorem validate_of_map {entries : List (Value × Value)} (h : data.asEntries? = some entries) :
    c.validate data = (validateFields entries [] c.fields).map fun violations =>
      if violations.isEmpty then .ok data else .error violations := by
  rw [validate, h]
  simp only
  cases validateFields entries [] c.fields <;> rfl

/-- Data is valid exactly if it is a map in whose entries nothing is found. -/
theorem valid_iff :
    (∃ r, c.validate data = .ok r ∧ r.valid = true) ↔
      ∃ entries, data.asEntries? = some entries ∧ validateFields entries [] c.fields = .ok [] := by
  constructor
  · rintro ⟨r, h, valid⟩
    cases he : data.asEntries? with
    | none =>
      rw [validate_of_not_map he] at h
      cases h
      cases valid
    | some entries =>
      rw [validate_of_map he] at h
      refine ⟨entries, rfl, ?_⟩
      cases hv : validateFields entries [] c.fields with
      | error e =>
        rw [hv] at h
        cases h
      | ok vs =>
        rw [hv] at h
        cases h
        cases vs with
        | nil => rfl
        | cons w ws => cases valid
  · rintro ⟨entries, he, none⟩
    rw [validate_of_map he, none]
    exact ⟨.ok data, rfl, rfl⟩

end Contract

/-- The three ways to an outcome. -/
theorem validate_eq_ok {r : ValidationResult} (h : (validate o name data).result = .ok r) :
    (o.find? name = none ∧ ∃ text, name.display = .ok text ∧
      r = .error [⟨contractField, "contract " ++ text ++ " not found", []⟩]) ∨
    (∃ c, o.find? name = some c ∧ data.asEntries? = none ∧
      r = .error [⟨rootField, "expected map, got " ++ data.kindName, []⟩]) ∨
    ∃ c entries vs, o.find? name = some c ∧ data.asEntries? = some entries ∧
      validateFields entries [] c.fields = .ok vs ∧
      r = if vs.isEmpty then .ok data else .error vs := by
  cases hc : o.find? name with
  | none =>
    rw [validate_of_unknown hc] at h
    exact .inl ⟨rfl, unknownContract_eq_ok_iff.mp h⟩
  | some c =>
    rw [validate_of_known hc] at h
    cases he : data.asEntries? with
    | none =>
      rw [Contract.validate_of_not_map he] at h
      cases h
      exact .inr (.inl ⟨c, rfl, rfl, rfl⟩)
    | some entries =>
      rw [Contract.validate_of_map he] at h
      cases hv : validateFields entries [] c.fields with
      | error e =>
        rw [hv] at h
        cases h
      | ok vs =>
        rw [hv] at h
        cases h
        exact .inr (.inr ⟨c, entries, vs, rfl, rfl, hv, rfl⟩)

/-- A valid outcome hands on the data, with no violations. -/
theorem of_valid {r : ValidationResult} (h : (validate o name data).result = .ok r)
    (valid : r.valid = true) : r.data = data ∧ r.violations = [] := by
  obtain ⟨-, text, -, rfl⟩ | ⟨c, -, -, rfl⟩ | ⟨c, entries, vs, -, -, -, rfl⟩ := validate_eq_ok h
  · cases valid
  · cases valid
  · cases vs with
    | nil => exact ⟨rfl, rfl⟩
    | cons w ws => cases valid

end DataContract

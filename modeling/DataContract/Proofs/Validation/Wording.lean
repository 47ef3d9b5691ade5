/-
What violations read.

The error of a violation that is found in a field is one of a few sentences (`Worded`): that the
field is required, that a value or an item has another type than the declared one, or the message
of a constraint that the value fails. `worded_of_validateFields` says so of every violation at
every depth; what all errors have in common is proved from these cases.
-/
import DataContract.Proofs.Validation.Report

namespace DataContract

open Constraint

/-- What the error of a violation of a field reads. -/
inductive Worded : String → Prop where
  | missing : Worded "is required"
  | mistyped {t : FieldType} {v : Value} (other : t.accepts v = false) :
    Worded ("expected " ++ t.name ++ ", got " ++ v.kindName)
  | failing {c : Constraint} {v : Value} {m : String} (said : c.Says v m) : Worded m
  | item {t : FieldType} {v : Value} (other : t.accepts v = false) :
    Worded ("invalid list item: expected " ++ t.name ++ ", got " ++ v.kindName)

theorem Field.worded_of_saying {f : Field} {path messages : List String}
    (each : ∀ m ∈ messages, Worded m) : ∀ w ∈ f.saying path messages, Worded w.error := by
  intro w mem
  obtain ⟨m, hm, rfl⟩ := List.mem_map.mp mem
  exact each m hm

theorem Field.Report.worded {f : Field} {entries : List (Value × Value)} {path : List String}
    {own : List Violation} (h : f.Report entries path own) : ∀ w ∈ own, Worded w.error := by
  cases h with
  | optional => exact nofun
  | missing => exact worded_of_saying (List.forall_mem_singleton.mpr .missing)
  | mistyped held other => exact worded_of_saying (List.forall_mem_singleton.mpr (.mistyped other))
  | failing held typed answered fails =>
    refine worded_of_saying fun m hm => ?_
    obtain ⟨c, hc, said⟩ := List.mem_filterMap.mp hm
    obtain ⟨a, ha⟩ := answered c hc
    simp only [message?, ha] at said
    exact .failing (says_of_check_eq_some (said ▸ ha))
  | items =>
    intro w mem
    obtain ⟨x, hx, rfl⟩ := List.mem_map.mp mem
    exact .item (by simpa using (List.mem_filter.mp hx).2)
  | sound => exact nofun

/-- Every violation that is found in fields, at any depth, reads like one of a field. -/
theorem worded_of_validateFields (fields : List Field) :
    ∀ {entries : List (Value × Value)} {path : List String} {vs : List Violation},
      validateFields entries path fields = .ok vs → ∀ w ∈ vs, Worded w.error := by
  induction fields using fieldsInduction with
  | nil =>
    intro entries path vs h w mem
    rw [validateFields] at h
    cases h
    exact absurd mem List.not_mem_nil
  | cons f rest inside ih =>
    intro entries path vs h w mem
    obtain ⟨first, others, hf, hr, rfl⟩ := validateFields_cons_eq_ok_iff.mp h
    rcases List.mem_append.mp mem with mem | mem
    · obtain ⟨report, -⟩ | ⟨nested, inner, go, hn⟩ := Field.validate_eq_ok hf
      · exact report.worded w mem
      · exact inside nested go.fields hn w mem
    · exact ih hr w mem

end DataContract

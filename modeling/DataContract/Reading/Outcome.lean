/-
Reading violations and outcomes of validation from values.

An outcome is valid and has no violations, or is not valid and has at least one.
-/
import DataContract.Reading.Model
import DataContract.Validation.Violation

namespace DataContract.Reading

/-- A violation. -/
def violation (v : Value) : Reading Violation :=
  match Violation.ofValue? v with
  | some w => .ok w
  | none =>
    match entries "Violation" v with
    | .error e => .error e
    | .ok es =>
      (both (needed "field" es text) <|
        both (needed "error" es text) (optional "path" [] es (tupleOf text))).map
          fun (field, error, path) => ⟨field, error, path⟩

/-- An outcome whose violations fit it. -/
def fitting (r : ValidationResult) : Reading ValidationResult :=
  if r.valid && !r.violations.isEmpty then
    fault (.broken "a valid result cannot carry violations")
  else if !r.valid && r.violations.isEmpty then
    fault (.broken "an error result needs at least one violation")
  else .ok r

/-- An outcome of validation. -/
def outcome (v : Value) : Reading ValidationResult :=
  match entries "ValidationResult" v with
  | .error e => .error e
  | .ok es =>
    let parts :=
      both (needed "valid" es boolean) <|
        both (optional "data" .null es .ok) (optional "violations" [] es (tupleOf violation))
    match parts with
    | .error e => .error e
    | .ok (valid, data, violations) => fitting ⟨valid, data, violations⟩

end DataContract.Reading

/-
Violations, and the report that lists them.

A violation names a field, the way to it through maps, and what is wrong. `report` is the text for
readers: a headline with the number of violations and a line for each.
-/
import DataContract.Value.Rendering

namespace DataContract

/-- One way in which data fails a contract. -/
structure Violation where
  field : String
  error : String
  path : List String
  deriving DecidableEq, Inhabited

namespace Violation

/-- The names of the path and of the field with dots between, such as `address.zip`. -/
def qualifiedName (v : Violation) : String :=
  ".".intercalate (v.path ++ [v.field])

/-- The line of a violation: the way to the field, if there is one, the field and what is wrong. -/
def line (v : Violation) : String :=
  if v.path.isEmpty then v.field ++ ": " ++ v.error
  else ".".intercalate v.path ++ "." ++ v.field ++ ": " ++ v.error

/-- The violation as a value. -/
def toValue (v : Violation) : Value :=
  .record "Violation" [("field", .text v.field), ("error", .text v.error),
    ("path", .tuple (v.path.map .text))]

/-- The violation that a value is. -/
def ofValue? : Value → Option Violation
  | .record "Violation" [(_, .text field), (_, .text error), (_, .sequence .tuple path)] => do
    let path ← path.mapM fun v => match v with
      | .text s => some s
      | _ => none
    return ⟨field, error, path⟩
  | _ => none

end Violation

/-- The report of violations: how many there are, and a line for each. -/
def report (violations : List Violation) : String :=
  let headline := "Validation failed at perimeter with " ++ toString violations.length ++
    " violation(s):"
  "\n".intercalate (headline :: violations.map fun v => "  - " ++ v.line)

/-- Data was refused at a boundary: the violations, and the contract if it is known. -/
structure Refusal where
  violations : List Violation
  contract : Option Value
  deriving Inhabited

namespace Refusal

/-- What the refusal reads. -/
def message (r : Refusal) : String :=
  report r.violations

/-- The qualified names of the fields at fault, in the report's order. -/
def fields (r : Refusal) : List String :=
  r.violations.map (·.qualifiedName)

end Refusal

/-- The outcome of validating a value: the value itself if it is valid, else the violations. -/
structure ValidationResult where
  valid : Bool
  data : Value
  violations : List Violation
  deriving Inhabited

namespace ValidationResult

/-- The outcome for valid data. -/
def ok (data : Value) : ValidationResult :=
  ⟨true, data, []⟩

/-- The outcome for data with violations. -/
def error (violations : List Violation) : ValidationResult :=
  ⟨false, .null, violations⟩

end ValidationResult

end DataContract

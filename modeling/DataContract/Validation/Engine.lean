/-
The validation engine: walks the fields of a contract over a map and collects every violation.

Fields are visited in order. Within a field a wrong type comes first and ends it; else every
failing constraint in order; else what is wrong inside a map, or with the items of a list.

* `validateFields` — the violations of a list of fields at a path;
* `Contract.validate` — the outcome for a value that should be a map.
-/
import DataContract.Contract.Basic
import DataContract.Validation.Violation
import DataContract.Journal.Basic

namespace DataContract

/-- The name under which a contract that is not found is reported. -/
def contractField : String := "_contract"

/-- The name under which data that is no map is reported. -/
def rootField : String := "_root"

/-- The violations of a list's items, by their type alone. -/
def itemViolations (name : String) (item : FieldType) (path : List String) (items : List Value) :
    List Violation :=
  (items.filter fun v => !item.accepts v).map fun v =>
    ⟨name, "invalid list item: expected " ++ item.name ++ ", got " ++ v.kindName, path⟩

mutual

/-- The violations of one field in the entries of a map. -/
def Field.validate (entries : List (Value × Value)) (path : List String) :
    Field → Except CheckFault (List Violation)
  | ⟨name, type, required, constraints, nested⟩ =>
    match Value.lookup? (.text name) entries with
    | none => .ok (if required then [⟨name, "is required", path⟩] else [])
    | some v =>
      if !type.accepts v then
        .ok [⟨name, "expected " ++ type.name ++ ", got " ++ v.kindName, path⟩]
      else do
        let messages ← Constraint.checkAll constraints v
        if messages.isEmpty then
          match type, v with
          | .kind .map, .mapping _ inner => validateNested inner (path ++ [name]) nested
          | .listOf item, .sequence _ items => return itemViolations name item path items
          | _, _ => return []
        else return messages.map fun m => ⟨name, m, path⟩

/-- The violations inside a map whose fields may be given. -/
def validateNested (entries : List (Value × Value)) (path : List String) :
    Option (List Field) → Except CheckFault (List Violation)
  | none => .ok []
  | some fields => validateFields entries path fields

/-- The violations of a list of fields in the entries of a map, field by field. -/
def validateFields (entries : List (Value × Value)) (path : List String) :
    List Field → Except CheckFault (List Violation)
  | [] => .ok []
  | f :: rest => do
    let first ← f.validate entries path
    let others ← validateFields entries path rest
    return first ++ others

end

namespace Contract

/-- The outcome of validating a value against a contract. -/
def validate (c : Contract) (data : Value) : Except CheckFault ValidationResult :=
  match data.asEntries? with
  | none => .ok (.error [⟨rootField, "expected map, got " ++ data.kindName, []⟩])
  | some entries => do
    let violations ← validateFields entries [] c.fields
    return if violations.isEmpty then .ok data else .error violations

end Contract

end DataContract

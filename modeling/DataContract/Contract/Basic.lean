/-
Contracts: named lists of fields, each with a type, constraints and, for a map, fields of its own.

`Contract.WellFormed` says what every contract that can be built keeps: names are not empty and are
distinct within a list, and only maps have fields. A contract is a value too (`Contract.toValue`),
as data and sources of contracts may hold one.
-/
import DataContract.Contract.Constraint

namespace DataContract

/-- A named entry of a contract, or of a map's own fields. -/
structure Field where
  name : String
  type : FieldType
  required : Bool
  constraints : List Constraint
  nested : Option (List Field)
  deriving Inhabited

/-- A named, ordered list of fields. -/
structure Contract where
  name : String
  fields : List Field
  deriving Inhabited

namespace Contract

/-- The names of the top-level fields, in order. -/
def fieldNames (c : Contract) : List String :=
  c.fields.map (·.name)

end Contract

/-- The first name that a list of fields has twice. -/
def duplicateName? : List String → List Field → Option String
  | _, [] => none
  | seen, f :: rest =>
    if seen.contains f.name then some f.name else duplicateName? (f.name :: seen) rest

mutual

/-- A field keeps the rules of contracts at every depth. -/
def Field.WellFormed : Field → Prop
  | ⟨name, type, _, _, nested⟩ =>
    name ≠ "" ∧ (nested.isSome → type = .kind .map) ∧ nestedWellFormed nested

/-- The fields of a map, if given, keep the rules of contracts. -/
def nestedWellFormed : Option (List Field) → Prop
  | none => True
  | some fields => (fields.map (·.name)).Nodup ∧ allWellFormed fields

/-- Each field of a list keeps the rules of contracts. -/
def allWellFormed : List Field → Prop
  | [] => True
  | f :: rest => f.WellFormed ∧ allWellFormed rest

end

/-- A contract keeps the rules of contracts. -/
def Contract.WellFormed (c : Contract) : Prop :=
  c.name ≠ "" ∧ (c.fields.map (·.name)).Nodup ∧ allWellFormed c.fields

namespace Constraint

/-- The name of the model of a constraint's kind. -/
def modelName : ConstraintKind → String
  | .format => "Format"
  | .minLength => "MinLength"
  | .maxLength => "MaxLength"
  | .min => "Min"
  | .max => "Max"
  | .oneOf => "OneOf"

/-- What a constraint is configured with, under its name. -/
def parameter : Constraint → String × Value
  | .format p => ("pattern", .pattern p)
  | .minLength n => ("value", .int n)
  | .maxLength n => ("value", .int n)
  | .min b => ("value", b.toValue)
  | .max b => ("value", b.toValue)
  | .oneOf values => ("values", .tuple values)

/-- A constraint as a value. -/
def toValue (c : Constraint) : Value :=
  .record (modelName c.kind) [("kind", .text c.kind.keyword), c.parameter]

/-- The constraint that a value is. -/
def ofValue? : Value → Option Constraint
  | .record "Format" [_, (_, .pattern p)] => some (.format p)
  | .record "MinLength" [_, (_, .int n)] => if 0 ≤ n then some (.minLength n.toNat) else none
  | .record "MaxLength" [_, (_, .int n)] => if 0 ≤ n then some (.maxLength n.toNat) else none
  | .record "Min" [_, (_, b)] => (Bound.ofValue? b).map .min
  | .record "Max" [_, (_, b)] => (Bound.ofValue? b).map .max
  | .record "OneOf" [_, (_, .sequence .tuple values)] => some (.oneOf values)
  | _ => none

end Constraint

mutual

/-- A field as a value. -/
def Field.toValue : Field → Value
  | ⟨name, type, required, constraints, nested⟩ =>
    .record "ContractField" [("name", .text name), ("type", type.toValue),
      ("required", .bool required),
      ("constraints", .tuple (constraints.map Constraint.toValue)),
      ("nested_fields", nestedToValue nested)]

/-- The fields of a map as a value. -/
def nestedToValue : Option (List Field) → Value
  | none => .null
  | some fields => .tuple (fieldsToValues fields)

/-- Fields as values. -/
def fieldsToValues : List Field → List Value
  | [] => []
  | f :: rest => f.toValue :: fieldsToValues rest

end

mutual

/-- The field that a value is. -/
def Field.ofValue? : Value → Option Field
  | .record "ContractField" [(_, .text name), (_, type), (_, .bool required),
      (_, .sequence .tuple constraints), (_, nested)] => do
    let type ← FieldType.ofValue? type
    let constraints ← constraints.mapM Constraint.ofValue?
    let nested ← nestedOfValue? nested
    return ⟨name, type, required, constraints, nested⟩
  | _ => none

/-- The fields of a map that a value is. -/
def nestedOfValue? : Value → Option (Option (List Field))
  | .null => some none
  | .sequence .tuple items => (fieldsOfValues? items).map some
  | _ => none

/-- The fields that values are. -/
def fieldsOfValues? : List Value → Option (List Field)
  | [] => some []
  | v :: rest => do
    let first ← Field.ofValue? v
    let others ← fieldsOfValues? rest
    return first :: others

end

namespace Contract

/-- A contract as a value. -/
def toValue (c : Contract) : Value :=
  .record "Contract" [("name", .text c.name), ("fields", .tuple (fieldsToValues c.fields))]

/-- The contract that a value is. -/
def ofValue? : Value → Option Contract
  | .record "Contract" [(_, .text name), (_, .sequence .tuple fields)] =>
    (fieldsOfValues? fields).map fun fs => ⟨name, fs⟩
  | _ => none

end Contract

end DataContract

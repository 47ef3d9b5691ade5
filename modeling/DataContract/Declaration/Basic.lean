/-
Declaring contracts piece by piece.

* `FieldType.declared` — the type that a value spells: a kind's member or name, a list type, or a
  pair of `list` and the spelling of the items' type;
* `Constraint.declared` — the constraint of a keyword and a value;
* `Field.declared`, `Contract.declared` — a field and a contract of their parts.

A constraint that can never act on its field's type is kept, and a warning is written for it.
-/
import DataContract.Declaration.Fault
import DataContract.Registry.Basic

namespace DataContract

/-- A refusal that shows what was given. -/
def refuseShown {α : Type} (fault : String → DeclarationFault) (v : Value) :
    Except DeclarationFault α :=
  match v.quoted with
  | .ok shown => .error (fault shown)
  | .error _ => .error .tooManyDigits

/-- Whether a value is equal to the name of the kind of lists. -/
def isListWord (v : Value) : Bool :=
  v == .text FieldKind.list.name

namespace FieldType

/-- The type that a text names. -/
def ofWord (v : Value) (word : String) : Except DeclarationFault FieldType :=
  match FieldKind.ofName? word with
  | some k => .ok (.kind k)
  | none => refuseShown .unknownType v

/-- The type that a value spells. -/
def declared (v : Value) : Except DeclarationFault FieldType :=
  match ofValue? v, v.asText?, v with
  | some t, _, _ => .ok t
  | none, some word, v => ofWord v word
  | none, none, .sequence k [head, item] =>
    if !k.grows && isListWord head then (declared item).map .listOf
    else refuseShown .unsupportedType (.sequence k [head, item])
  | none, none, v => refuseShown .unsupportedType v

/-- The list type whose items' type a value spells. -/
def declaredList (item : Value) : Except DeclarationFault FieldType :=
  (declared item).map .listOf

end FieldType

namespace Constraint

/-- The keyword that another one stands for, where a keyword is a reserved word elsewhere. -/
def aliasOf (keyword : String) : String :=
  if keyword = "in_" then ConstraintKind.oneOf.keyword else keyword

/-- The constraint of a kind with a value. -/
def ofKind (k : ConstraintKind) (v : Value) : Except DeclarationFault Constraint :=
  let title := modelName k
  match k with
  | .oneOf =>
    match v.iterate? with
    | some values => .ok (.oneOf values)
    | none => .error (.notIterable v.qualifiedTypeName)
  | .format =>
    DeclarationFault.ofReading title (Reading.parameter k [(.text "pattern", v)])
  | _ => DeclarationFault.ofReading title (Reading.parameter k [(.text "value", v)])

/-- The constraint of a keyword with a value. -/
def declared (keyword v : Value) : Except DeclarationFault Constraint :=
  match keyword.asText?.bind fun s => ConstraintKind.ofKeyword? (aliasOf s) with
  | some k => ofKind k v
  | none =>
    match keyword.asText?, keyword.display with
    | some s, _ => .error (.unknownConstraint (aliasOf s))
    | none, .ok text => .error (.unknownConstraint text)
    | none, .error _ => .error .tooManyDigits

/-- The constraints of keywords with values, in order. -/
def declaredAll : List (Value × Value) → Except DeclarationFault (List Constraint)
  | [] => .ok []
  | (keyword, v) :: rest => do
    let c ← declared keyword v
    let others ← declaredAll rest
    return c :: others

end Constraint

namespace Field

/-- The kinds of the constraints that can never act on the field's type, in order. -/
def inapplicable (f : Field) : List ConstraintKind :=
  (f.constraints.filter (Constraint.inapplicable f.type)).map (·.kind)

/-- The warnings for those constraints. -/
def warnings (f : Field) : List LogEntry :=
  f.inapplicable.map fun k =>
    .plain .builder .warning ("constraint " ++ k.keyword ++ " has no effect on " ++ f.type.name ++
      " field " ++ f.name)

/-- Puts a field together whose type and constraints are known. -/
def assemble (name : Value) (type : FieldType) (required : Bool) (constraints : List Constraint)
    (nested : Option (List Field)) : Reading Field :=
  let nested : Reading (Option (List Field)) :=
    match nested with
    | none => .ok none
    | some fields => Reading.under (.name "nested_fields") (Reading.nestedOf (.ok fields))
  match Reading.both (Reading.under (.name "name") (Reading.nonEmptyText name)) nested with
  | .error e => .error e
  | .ok (name, nested) => .ok ⟨name, type, required, constraints, nested⟩

/-- The field of a name, a spelled type, keywords with values and, for a map, fields. -/
def declared (name type : Value) (required : Bool) (fields : Option (List Field))
    (constraints : List (Value × Value)) : Noted DeclarationFault Field := do
  let resolved ← Noted.of (FieldType.declared type)
  if fields.isSome && resolved ≠ .kind .map then
    let shown ← Noted.of (DeclarationFault.ofText name.display)
    Noted.fail (.fieldsOutsideMap shown resolved)
  else
    let constraints ← Noted.of (Constraint.declaredAll constraints)
    let f ← Noted.of (DeclarationFault.ofReading "ContractField"
      (assemble name resolved required constraints fields))
    Noted.noteAll f.warnings
    return f

end Field

namespace Contract

/-- The contract of a name and fields. -/
def declared (name : Value) (fields : List Field) : Except DeclarationFault Contract :=
  DeclarationFault.ofReading "Contract" <|
    (Reading.both (Reading.under (.name "name") (Reading.nonEmptyText name))
      (Reading.under (.name "fields") (Reading.distinct fields))).map
        fun (name, fields) => ⟨name, fields⟩

end Contract

end DataContract

/-
Reading types, constraints, fields and contracts from values.

Fields and contracts are read from maps at any depth; a record of the model at any place is taken
as it is. Rules that go beyond single parts are looked at once the parts are sound: names are
distinct within a list, and only maps have fields of their own.
-/
import DataContract.Reading.Model

namespace DataContract.Reading

/-- A kind of value, from its member or its name. -/
def fieldKind (v : Value) : Reading FieldKind :=
  let named : Reading FieldKind :=
    match text v with
    | .ok s => (FieldKind.ofName? s).elim (fault .notKind) .ok
    | .error _ => fault .notKind
  match v with
  | .atom a => (FieldKind.ofAtom? a).elim named .ok
  | _ => named

/-- What is read from a value as a type: first as a kind, then as a list type; the faults of both
if it is neither. -/
def eitherType (asKind : Reading FieldKind) (asList : Reading FieldType) : Reading FieldType :=
  match asKind, asList with
  | .ok k, _ => .ok (.kind k)
  | .error _, .ok t => .ok t
  | .error e, .error f =>
    (both (α := FieldType) (β := FieldType) (under (.name "str-enum[FieldKind]") (.error e))
      (under (.name "ListOf") (.error f))).map (·.1)

mutual

/-- A type. -/
def fieldType : Value → Reading FieldType
  | .mapping k es =>
    eitherType (fieldKind (.mapping k es)) (listTypeOf (itemType es))
  | v =>
    match FieldType.ofValue? v with
    | some t => .ok t
    | none => eitherType (fieldKind v) (fault (.notModel "ListOf"))

/-- The type under the key for the items' type. -/
def itemType : List (Value × Value) → Option (Reading FieldType)
  | [] => none
  | (k, v) :: rest => if Value.text "item" == k then some (fieldType v) else itemType rest

/-- The list type whose items' type was read. -/
def listTypeOf : Option (Reading FieldType) → Reading FieldType
  | none => under (.name "item") (fault .missing)
  | some r => (under (.name "item") r).map .listOf

end

/-- A list type, from a map or a record. -/
def listType (v : Value) : Reading FieldType :=
  match v with
  | .mapping _ es => listTypeOf (itemType es)
  | v =>
    match FieldType.ofValue? v with
    | some (.listOf t) => .ok (.listOf t)
    | _ => fault (.notModel "ListOf")

/-- The parameter of a constraint of a kind. -/
def parameter (k : ConstraintKind) (es : List (Value × Value)) : Reading Constraint :=
  match k with
  | .format => (needed "pattern" es pattern).map .format
  | .minLength => (needed "value" es length).map .minLength
  | .maxLength => (needed "value" es length).map .maxLength
  | .min => (needed "value" es bound).map .min
  | .max => (needed "value" es bound).map .max
  | .oneOf => (needed "values" es items).map .oneOf

/-- A constraint of a known kind. -/
def constraintOf (k : ConstraintKind) (v : Value) : Reading Constraint :=
  match (Constraint.ofValue? v).filter fun c => c.kind == k with
  | some c => .ok c
  | none =>
    match entries (Constraint.modelName k) v with
    | .error e => .error e
    | .ok es =>
      (both (optional "kind" () es (literal k.keyword)) (parameter k es)).map (·.2)

/-- What a value says the kind of a constraint is; none if it says nothing. -/
def constraintTag (v : Value) : Reading (Option Value) :=
  match v.asEntries?, v with
  | some es, _ => .ok (Value.lookup? (.text "kind") es)
  | none, .record _ fields => .ok ((fields.find? (·.1 = "kind")).map (·.2))
  | none, v => if v.hasAttributes then .ok none else fault .noAttributes

/-- The text of a tag in a message. -/
def tagText (v : Value) : String :=
  v.display.toOption.getD ""

/-- A constraint of whatever kind the value says. -/
def constraint (v : Value) : Reading Constraint :=
  match constraintTag v with
  | .error e => .error e
  | .ok none => fault .noTag
  | .ok (some tag) =>
    match ConstraintKind.all.find? fun k => isString k.keyword tag with
    | some k => under (.name k.keyword) (constraintOf k v)
    | none => fault (.unknownTag (tagText tag))

/-- The parts of a field read together: names, rules and the fields inside. -/
def fieldOfParts (es : List (Value × Value)) (nested : Reading (Option (List Field))) :
    Reading Field :=
  let parts :=
    both (needed "name" es nonEmptyText) <|
      both (needed "type" es fieldType) <|
        both (optional "required" false es boolean) <|
          both (optional "constraints" [] es (tupleOf constraint)) nested
  match parts with
  | .error e => .error e
  | .ok (name, type, required, constraints, nested) =>
    ensure (nested.isNone || type == .kind .map)
      ("field '" ++ name ++ "' of type " ++ type.name ++ " cannot declare nested fields")
      ⟨name, type, required, constraints, nested⟩

/-- Fields whose names are distinct. -/
def distinct (fields : List Field) : Reading (List Field) :=
  match duplicateName? [] fields with
  | some name => fault (.broken ("duplicate field name: " ++ name))
  | none => .ok fields

/-- Items that are no fields at all. -/
def noFields (count : Nat) : Reading (List Field) :=
  all ((List.range count).map fun i => under (.index i) (fault (.notModel "ContractField")))

/-- Fields inside a map that were read, with distinct names. -/
def nestedOf (r : Reading (List Field)) : Reading (Option (List Field)) :=
  match r with
  | .ok fields => (distinct fields).map some
  | .error e => .error e

mutual

/-- A field. -/
def field : Value → Reading Field
  | .mapping _ es => fieldOfParts es ((nestedUnder es).getD (.ok none))
  | v =>
    match Field.ofValue? v with
    | some f => .ok f
    | none => fault (.notModel "ContractField")

/-- The fields under the key for nested fields. -/
def nestedUnder : List (Value × Value) → Option (Reading (Option (List Field)))
  | [] => none
  | (k, v) :: rest =>
    if Value.text "nested_fields" == k then some (under (.name "nested_fields") (nestedFields v))
    else nestedUnder rest

/-- The fields inside a map, or null. -/
def nestedFields : Value → Reading (Option (List Field))
  | .null => .ok none
  | .sequence _ items => nestedOf (all (fieldItems 0 items))
  | .set items => nestedOf (all (fieldItems 0 items))
  | .record _ parts => nestedOf (noFields parts.length)
  | _ => fault .notTuple

/-- Items read as fields, each under its index. -/
def fieldItems : Nat → List Value → List (Reading Field)
  | _, [] => []
  | i, v :: rest => under (.index i) (field v) :: fieldItems (i + 1) rest

end

/-- A contract. -/
def contract (v : Value) : Reading Contract :=
  match Contract.ofValue? v with
  | some c => .ok c
  | none =>
    match entries "Contract" v with
    | .error e => .error e
    | .ok es =>
      let fields (w : Value) : Reading (List Field) :=
        match tupleOf field w with
        | .ok fs => distinct fs
        | .error e => .error e
      (both (needed "name" es nonEmptyText) (optional "fields" [] es fields)).map
        fun (name, fields) => ⟨name, fields⟩

end DataContract.Reading

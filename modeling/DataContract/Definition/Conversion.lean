/-
Contracts from the entries of a definition document.

An entry is a map with a name and a type, and perhaps a flag, constraints and fields of its own. It
is converted whether or not it follows the document format; what it lacks, or is not, is refused
with a `ConversionFault`.
-/
import DataContract.Declaration.Basic

namespace DataContract

/-- Why an entry cannot be converted. -/
inductive ConversionFault where
  | declaration (fault : DeclarationFault)
  /-- A value that cannot be gone through. -/
  | notIterable (type : String)
  /-- A value that is no map, and lacks what maps have. -/
  | notMap (type member : String)
  | missingKey (key : String)
  deriving DecidableEq, Inhabited

namespace ConversionFault

/-- What the refusal reads. -/
def message : ConversionFault → String
  | .declaration fault => fault.message
  | .notIterable type => "'" ++ type ++ "' object is not iterable"
  | .notMap type member => "'" ++ type ++ "' object has no attribute '" ++ member ++ "'"
  | .missingKey key => Text.quoted key

end ConversionFault

namespace Definition

/-- A step of conversion that declares something. -/
def declare {α : Type} (r : Except DeclarationFault α) : Noted ConversionFault α :=
  (Noted.of r).mapError ConversionFault.declaration

/-- The value under a key that must be there. -/
def atKey (key : String) (es : List (Value × Value)) : Except ConversionFault Value :=
  match Value.lookup? (.text key) es with
  | some v => .ok v
  | none => .error (ConversionFault.missingKey key)

mutual

/-- The type that a value writes: a map with the items' type under `list`, or a spelling. -/
def typeOf : Value → Except ConversionFault FieldType
  | .mapping .view es => (FieldType.declared (.mapping .view es)).mapError ConversionFault.declaration
  | .mapping _ es => (itemTypeOf es).getD (.error (ConversionFault.missingKey "list"))
  | v => (FieldType.declared v).mapError ConversionFault.declaration

/-- The list type whose items' type stands under `list`. -/
def itemTypeOf : List (Value × Value) → Option (Except ConversionFault FieldType)
  | [] => none
  | (k, v) :: rest =>
    if Value.text "list" == k then some ((typeOf v).map .listOf) else itemTypeOf rest

end

/-- The constraints of one item of a list of constraints. -/
def constraintsOfItem (item : Value) : Except ConversionFault (List Constraint) :=
  match item.asEntries? with
  | none => .error (.notMap item.qualifiedTypeName "items")
  | some es => (Constraint.declaredAll es).mapError ConversionFault.declaration

/-- The constraints of the items, in order. -/
def constraintsOfItems : List Value → Except ConversionFault (List Constraint)
  | [] => .ok []
  | item :: rest => do
    let first ← constraintsOfItem item
    let others ← constraintsOfItems rest
    return first ++ others

/-- The constraints under the key for them. -/
def constraintsOf (es : List (Value × Value)) : Except ConversionFault (List Constraint) :=
  match Value.lookup? (.text "constraints") es with
  | none => .ok []
  | some v =>
    match v.iterate? with
    | none => .error (.notIterable v.qualifiedTypeName)
    | some items => constraintsOfItems items

/-- Puts a field together from its entries, its constraints and the fields inside it. -/
def assembleField (es : List (Value × Value)) (constraints : List Constraint)
    (nested : Noted ConversionFault (Option (List Field))) : Noted ConversionFault Field := do
  let name ← Noted.of (atKey "name" es)
  let written ← Noted.of (atKey "type" es)
  let type ← Noted.of (typeOf written)
  let required := (Value.lookup? (.text "required") es).getD (.bool false)
  let nested ← nested
  let parts : Reading (String × Bool × Option (List Field)) :=
    Reading.both (Reading.under (.name "name") (Reading.nonEmptyText name)) <|
      Reading.both (Reading.under (.name "required") (Reading.boolean required)) <|
        match nested with
        | none => .ok none
        | some fields => Reading.under (.name "nested_fields") (Reading.nestedOf (.ok fields))
  let whole : Reading Field :=
    match parts with
    | .error e => .error e
    | .ok (name, required, nested) =>
      Reading.ensure (nested.isNone || type == .kind .map)
        ("field '" ++ name ++ "' of type " ++ type.name ++ " cannot declare nested fields")
        ⟨name, type, required, constraints, nested⟩
  let f ← declare (DeclarationFault.ofReading "ContractField" whole)
  Noted.noteAll f.warnings
  return f

/-- Entries that are all of a type that is no map: the first, if there is one, is refused. -/
def noEntries (type : String) (count : Nat) : Noted ConversionFault (List Field) :=
  if count = 0 then .ok [] else .fail (.notMap type "get")

mutual

/-- The field of an entry. -/
def fieldOf : Value → Noted ConversionFault Field
  | .mapping _ es => do
    let constraints ← Noted.of (constraintsOf es)
    assembleField es constraints ((nestedUnder es).getD (.ok none))
  | v => .fail (.notMap v.qualifiedTypeName "get")

/-- The fields under the key for an entry's own fields. -/
def nestedUnder : List (Value × Value) → Option (Noted ConversionFault (Option (List Field)))
  | [] => none
  | (k, v) :: rest =>
    if Value.text "fields" == k then some (nestedOf v) else nestedUnder rest

/-- The fields inside an entry, or null. -/
def nestedOf : Value → Noted ConversionFault (Option (List Field))
  | .null => .ok none
  | .text s => do
    let fields ← noEntries "str" s.length
    return some fields
  | .atom a =>
    match (Value.atom a).iterate? with
    | none => .fail (.notIterable (Value.atom a).qualifiedTypeName)
    | some items => do
      let fields ← noEntries "str" items.length
      return some fields
  | .bytes b => do
    let fields ← noEntries "int" b.length
    return some fields
  | .sequence _ items => do
    let fields ← fieldsOf items
    return some fields
  | .set items => do
    let fields ← fieldsOf items
    return some fields
  | .mapping _ es => do
    let fields ← fieldsOfKeys es
    return some fields
  | .record _ parts => do
    let fields ← noEntries "tuple" parts.length
    return some fields
  | v => .fail (.notIterable v.qualifiedTypeName)

/-- The fields of entries, in order. -/
def fieldsOf : List Value → Noted ConversionFault (List Field)
  | [] => .ok []
  | v :: rest => do
    let first ← fieldOf v
    let others ← fieldsOf rest
    return first :: others

/-- The fields of the keys of a map, in order. -/
def fieldsOfKeys : List (Value × Value) → Noted ConversionFault (List Field)
  | [] => .ok []
  | (k, _) :: rest => do
    let first ← fieldOf k
    let others ← fieldsOfKeys rest
    return first :: others

end

/-- The contract of a name and a value that holds its entries. -/
def contractOf (name fields : Value) : Noted ConversionFault Contract := do
  let fields ←
    match fields with
    | .null => .fail (.notIterable "NoneType")
    | v => nestedOf v
  declare (Contract.declared name (fields.getD []))

end Definition

end DataContract

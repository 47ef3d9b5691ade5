/-
Reading models from maps.

A model is read from any map by the names of its fields, other keys being passed over, or is taken
as it is from a record of the model. `Reading.fields` finds the entries, `Reading.optional` and
`Reading.needed` read them.
-/
import DataContract.Reading.Scalar
import DataContract.Value.Entries

namespace DataContract

namespace Value

/-- Whether attributes are looked for on a value that is no map: not on those of the language's
core. -/
def hasAttributes (v : Value) : Bool :=
  match v with
  | .date _ => true
  | .dateTime _ => true
  | .pattern _ => true
  | .handle _ => true
  | .record _ _ => true
  | v => v.asMember?.isSome

end Value

namespace Reading

variable {α : Type}

/-- The entries that a model is read from. -/
def entries (model : String) (v : Value) : Reading (List (Value × Value)) :=
  match v.asEntries? with
  | some es => .ok es
  | none => fault (.notModel model)

/-- A field that must be there. -/
def needed (name : String) (es : List (Value × Value)) (read : Value → Reading α) : Reading α :=
  under (.name name) <|
    match Value.lookup? (.text name) es with
    | some v => read v
    | none => fault .missing

/-- A field that has a default. -/
def optional (name : String) (default : α) (es : List (Value × Value))
    (read : Value → Reading α) : Reading α :=
  under (.name name) <|
    match Value.lookup? (.text name) es with
    | some v => read v
    | none => .ok default

/-- The items that a tuple is read from: those of a list, tuple or set, or of a record. -/
def items (v : Value) : Reading (List Value) :=
  match v with
  | .sequence _ xs => .ok xs
  | .set xs => .ok xs
  | .record _ fields => .ok (fields.map fun (k, w) => .tuple [.text k, w])
  | _ => fault .notTuple

/-- Items read in order, each under its index. -/
def indexed (read : Value → Reading α) (xs : List Value) : Reading (List α) :=
  all (xs.zipIdx.map fun (x, i) => under (.index i) (read x))

/-- A tuple of parts of one kind. -/
def tupleOf (read : Value → Reading α) (v : Value) : Reading (List α) :=
  match items v with
  | .ok xs => indexed read xs
  | .error e => .error e

/-- Whether a value is a string, not a member, of these characters. -/
def isString (s : String) : Value → Bool
  | .text t => t == s
  | _ => false

/-- A literal that a field must spell if it is there. -/
def literal (expected : String) (v : Value) : Reading Unit :=
  if isString expected v then .ok () else fault (.notLiteral expected)

/-- A rule that a model as a whole keeps. -/
def ensure (holds : Bool) (rule : String) (a : α) : Reading α :=
  if holds then .ok a else fault (.broken rule)

end Reading

end DataContract

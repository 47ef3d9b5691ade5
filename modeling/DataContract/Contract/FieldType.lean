/-
Types that a contract declares for its fields.

A type is one of seven kinds, or a list whose items all have one type. `FieldType.accepts` says
whether a value is of a type; nothing is ever converted, so `"18"` is a string and never an
integer. `Value.kindName` names the kind of a value in messages.
-/
import DataContract.Value.Rendering

namespace DataContract

/-- The kinds of value a field can declare. -/
inductive FieldKind where
  | string
  | integer
  | float
  | boolean
  | atom
  | map
  | list
  deriving DecidableEq, Inhabited

namespace FieldKind

/-- All kinds, in the order they are listed in messages. -/
def all : List FieldKind :=
  [.string, .integer, .float, .boolean, .atom, .map, .list]

/-- The name of a kind. -/
def name : FieldKind → String
  | .string => "string"
  | .integer => "integer"
  | .float => "float"
  | .boolean => "boolean"
  | .atom => "atom"
  | .map => "map"
  | .list => "list"

/-- The kind with a name. -/
def ofName? (s : String) : Option FieldKind :=
  all.find? (·.name = s)

/-- The name of the enumeration whose members are the kinds. -/
def familyName : String := "FieldKind"

/-- The name of a kind as a member of its enumeration. -/
def memberName : FieldKind → String
  | .string => "STRING"
  | .integer => "INTEGER"
  | .float => "FLOAT"
  | .boolean => "BOOLEAN"
  | .atom => "ATOM"
  | .map => "MAP"
  | .list => "LIST"

/-- The kind as a value: a member that is at the same time its name. -/
def toAtom (k : FieldKind) : Atom :=
  ⟨familyName, k.memberName, .text k.name, true⟩

/-- The kind that a member is. -/
def ofAtom? (a : Atom) : Option FieldKind :=
  all.find? (·.toAtom = a)

/-- Whether a value is of the kind. A member is an atom and, where it is a text, a number, a list or a
map at the same time, of that kind too. -/
def accepts (k : FieldKind) (v : Value) : Bool :=
  match k, v with
  | .string, v => v.asText?.isSome
  | .integer, .int _ => true
  | .integer, .atom ⟨_, _, .number _, true⟩ => true
  | .float, .float _ => true
  | .float, .atom ⟨_, _, .double _, true⟩ => true
  | .boolean, .bool _ => true
  | .atom, v => v.asMember?.isSome
  | .map, .mapping _ _ => true
  | .list, .sequence _ _ => true
  | _, _ => false

end FieldKind

/-- A declared type. -/
inductive FieldType where
  | kind (k : FieldKind)
  | listOf (item : FieldType)
  deriving DecidableEq, Inhabited

namespace FieldType

/-- The name of a type: that of its kind, or `list of` and the name of its items' type. -/
def name : FieldType → String
  | .kind k => k.name
  | .listOf item => "list of " ++ item.name

/-- Whether a value is of the type; of a list only that it is one, its items being looked at
apart. -/
def accepts : FieldType → Value → Bool
  | .kind k, v => k.accepts v
  | .listOf _, v => FieldKind.list.accepts v

/-- The type as a value. -/
def toValue : FieldType → Value
  | .kind k => .atom k.toAtom
  | .listOf item => .record "ListOf" [("item", item.toValue)]

/-- The type that a value is, for a kind's member and a list type's record. -/
def ofValue? : Value → Option FieldType
  | .atom a => (FieldKind.ofAtom? a).map .kind
  | .record "ListOf" [("item", item)] => (ofValue? item).map .listOf
  | _ => none

end FieldType

namespace Value

/-- The kind in messages of a value that is no member: `null` and `unknown` for what no kind accepts. -/
def plainKindName : Value → String
  | .null => "null"
  | .bool _ => "boolean"
  | .text _ => "string"
  | .int _ => "integer"
  | .float _ => "float"
  | .mapping _ _ => "map"
  | .sequence _ _ => "list"
  | _ => "unknown"

/-- The kind of a value in messages: an atom before whatever else it may be. -/
def kindName (v : Value) : String :=
  if v.asMember?.isSome then "atom" else v.plainKindName

/-- Whether a value given as a type accepts another: a list type's record, or a text that names a
kind. -/
def acceptsAsType (declared v : Value) : Bool :=
  match declared with
  | .record "ListOf" _ => FieldKind.list.accepts v
  | d =>
    match d.asText?.bind FieldKind.ofName? with
    | some k => k.accepts v
    | none => false

/-- The name of a value given as a type: `list of` and the name of the items' type for a list type's
record, and else the value's text. -/
def nameAsType : Value → Except TooManyDigits String
  | .record "ListOf" [("item", item)] => do
    let inner ← nameAsType item
    return "list of " ++ inner
  | v => v.display

end Value

end DataContract

/-
Values: what data, configured values and names are made of.

A value is of one of the kinds of data formats and programs, and remembers which of several kinds
of list or map it is. Members of enumerations, patterns, moments of time, objects known only by
their identity, and records of declared models are values too. A member may at the same time be the
text, the number, the list or the map that is assigned to it; one that is a list or a map has parts
like any other.
-/
import DataContract.Calendar
import DataContract.Pattern.Basic
import DataContract.Text.Quoted

namespace DataContract

/-- What an enumeration assigns to a member without parts. -/
inductive AtomValue where
  | text (s : String)
  | number (n : Int)
  | double (x : Double)
  deriving DecidableEq, Inhabited

/-- A member of an enumeration that has no parts. -/
structure Atom where
  family : String
  name : String
  value : AtomValue
  /-- Whether a member is at the same time the text or the number assigned to it. -/
  isValue : Bool
  deriving DecidableEq, Inhabited

/-- A member of an enumeration by the names of both. -/
structure Member where
  family : String
  name : String
  deriving DecidableEq, Inhabited

/-- The kinds of list: one that can grow, one that cannot, and members of enumerations that are one of
these. -/
inductive SequenceKind where
  | list
  | tuple
  | listMember (m : Member)
  | tupleMember (m : Member)
  deriving DecidableEq, Inhabited

/-- The kinds of map: the common one, one whose order counts, a view that cannot be changed, and members
of enumerations that are a common one. -/
inductive MappingKind where
  | plain
  | ordered
  | view
  | member (m : Member)
  deriving DecidableEq, Inhabited

/-- An object known by its identity alone, with the name of its type and the text it shows. -/
structure Handle where
  type : String
  text : String
  identity : Nat
  deriving DecidableEq, Inhabited

/-- A value. The keys of a map are pairwise unequal, as are the members of a set. -/
inductive Value where
  | null
  | bool (b : Bool)
  | int (n : Int)
  | float (x : Double)
  | text (s : String)
  | atom (a : Atom)
  | sequence (kind : SequenceKind) (items : List Value)
  | mapping (kind : MappingKind) (entries : List (Value × Value))
  | set (items : List Value)
  | bytes (b : List UInt8)
  | date (d : CalendarDate)
  | dateTime (t : DateTime)
  | pattern (p : Pattern)
  | handle (h : Handle)
  | record (model : String) (fields : List (String × Value))
  deriving Inhabited

namespace Member

/-- A member as it is named. -/
def named (m : Member) : String :=
  m.family ++ "." ++ m.name

end Member

namespace Atom

/-- The member by its names alone. -/
def member (a : Atom) : Member := ⟨a.family, a.name⟩

/-- The member by the names of its enumeration and of itself. -/
def named (a : Atom) : String := a.member.named

end Atom

namespace SequenceKind

/-- Whether a sequence of the kind can grow. -/
def grows : SequenceKind → Bool
  | .list => true
  | .tuple => false
  | .listMember _ => true
  | .tupleMember _ => false

/-- The member that a sequence of the kind is. -/
def member? : SequenceKind → Option Member
  | .listMember m => some m
  | .tupleMember m => some m
  | _ => none

/-- The name of the type of a sequence of the kind. -/
def typeName : SequenceKind → String
  | .list => "list"
  | .tuple => "tuple"
  | .listMember m => m.family
  | .tupleMember m => m.family

end SequenceKind

namespace MappingKind

/-- Whether a map of the kind is a map in its own right, and not a view of one. -/
def isOwn : MappingKind → Bool
  | .view => false
  | _ => true

/-- The member that a map of the kind is. -/
def member? : MappingKind → Option Member
  | .member m => some m
  | _ => none

/-- The name of the type of a map of the kind. -/
def typeName : MappingKind → String
  | .plain => "dict"
  | .ordered => "OrderedDict"
  | .view => "mappingproxy"
  | .member m => m.family

end MappingKind

namespace Value

/-- A list. -/
abbrev list (items : List Value) : Value := .sequence .list items

/-- A tuple. -/
abbrev tuple (items : List Value) : Value := .sequence .tuple items

/-- A map of the common kind. -/
abbrev map (entries : List (Value × Value)) : Value := .mapping .plain entries

/-- The text that a value is, if it is one: a string, or a member that is its text. -/
def asText? : Value → Option String
  | .text s => some s
  | .atom ⟨_, _, .text s, true⟩ => some s
  | _ => none

/-- The number that a value is, if it is one: neither a truth value nor a member that merely has a
number. -/
def asNumber? : Value → Option Number
  | .int n => some (.int n)
  | .float x => some (.double x)
  | .atom ⟨_, _, .number n, true⟩ => some (.int n)
  | .atom ⟨_, _, .double x, true⟩ => some (.double x)
  | _ => none

/-- The member of an enumeration that a value is, whatever else it is. -/
def asMember? : Value → Option Member
  | .atom a => some a.member
  | .sequence k _ => k.member?
  | .mapping k _ => k.member?
  | _ => none

/-- The entries of a map of any kind. -/
def asEntries? : Value → Option (List (Value × Value))
  | .mapping _ entries => some entries
  | _ => none

/-- The items of a list or tuple. -/
def asItems? : Value → Option (List Value)
  | .sequence _ items => some items
  | _ => none

/-- The name of a value's type. -/
def typeName : Value → String
  | .null => "NoneType"
  | .bool _ => "bool"
  | .int _ => "int"
  | .float _ => "float"
  | .text _ => "str"
  | .atom a => a.family
  | .sequence k _ => k.typeName
  | .mapping k _ => k.typeName
  | .set _ => "set"
  | .bytes _ => "bytes"
  | .date _ => "date"
  | .dateTime _ => "datetime"
  | .pattern _ => "Pattern"
  | .handle h => h.type
  | .record model _ => model

/-- The name of a value's type with the place it is declared in, where that is not the language's
core. -/
def qualifiedTypeName : Value → String
  | .mapping .ordered _ => "collections.OrderedDict"
  | .date _ => "datetime.date"
  | .dateTime _ => "datetime.datetime"
  | .pattern _ => "re.Pattern"
  | v => v.typeName

/-- Whether a value counts as true: neither absent, nor zero, nor empty. -/
def truthy : Value → Bool
  | .null => false
  | .bool b => b
  | .int n => n ≠ 0
  | .float (.finite _ mantissa _) => mantissa ≠ 0
  | .text s => s ≠ ""
  | .atom ⟨_, _, .text s, true⟩ => s ≠ ""
  | .atom ⟨_, _, .number n, true⟩ => n ≠ 0
  | .atom ⟨_, _, .double (.finite _ mantissa _), true⟩ => mantissa ≠ 0
  | .sequence _ items => !items.isEmpty
  | .mapping _ entries => !entries.isEmpty
  | .set items => !items.isEmpty
  | .bytes b => !b.isEmpty
  | _ => true

end Value

end DataContract

/-
Faults found when a model is read from a value.

Reading a model looks at all its parts, and every part at fault is reported with the way to it.
`Reading α` is the outcome; two parts are read together with `Reading.both`, which keeps the faults
of both.
-/
import DataContract.Pattern.Basic

namespace DataContract

/-- A step on the way to a part: a field or choice by name, an item by index. -/
inductive Step where
  | name (s : String)
  | index (n : Nat)
  deriving DecidableEq, Inhabited

/-- What is wrong with a part. -/
inductive FaultKind where
  | missing
  | notModel (model : String)
  | noAttributes
  | notString
  | emptyString
  | notUnicode
  | notInteger
  | unreadableInteger
  | integerTooLarge
  | fractional
  | notFinite
  | negative
  | notNumber
  | unreadableNumber
  | notBoolean
  | unreadableBoolean
  | notKind
  | notPattern
  | malformedPattern
  | notTuple
  | notLiteral (expected : String)
  | noTag
  | unknownTag (tag : String)
  | broken (rule : String)
  | frozen
  deriving DecidableEq, Inhabited

namespace FaultKind

/-- The tags of the constraints, quoted, in their order. -/
def tagList : String :=
  "'format', 'min_length', 'max_length', 'min', 'max', 'one_of'"

/-- The code of a fault. -/
def code : FaultKind → String
  | .missing => "missing"
  | .notModel _ => "model_type"
  | .noAttributes => "model_attributes_type"
  | .notString => "string_type"
  | .emptyString => "string_too_short"
  | .notUnicode => "string_unicode"
  | .notInteger => "int_type"
  | .unreadableInteger => "int_parsing"
  | .integerTooLarge => "int_parsing_size"
  | .fractional => "int_from_float"
  | .notFinite => "finite_number"
  | .negative => "greater_than_equal"
  | .notNumber => "float_type"
  | .unreadableNumber => "float_parsing"
  | .notBoolean => "bool_type"
  | .unreadableBoolean => "bool_parsing"
  | .notKind => "enum"
  | .notPattern => "pattern_type"
  | .malformedPattern => "pattern_regex"
  | .notTuple => "tuple_type"
  | .notLiteral _ => "literal_error"
  | .noTag => "union_tag_not_found"
  | .unknownTag _ => "union_tag_invalid"
  | .broken _ => "value_error"
  | .frozen => "frozen_instance"

/-- What a fault reads. -/
def message : FaultKind → String
  | .missing => "Field required"
  | .notModel model => "Input should be a valid dictionary or instance of " ++ model
  | .noAttributes => "Input should be a valid dictionary or object to extract fields from"
  | .notString => "Input should be a valid string"
  | .emptyString => "String should have at least 1 character"
  | .notUnicode => "Input should be a valid string, unable to parse raw data as a unicode string"
  | .notInteger => "Input should be a valid integer"
  | .unreadableInteger => "Input should be a valid integer, unable to parse string as an integer"
  | .integerTooLarge => "Unable to parse input string as an integer, exceeded maximum size"
  | .fractional => "Input should be a valid integer, got a number with a fractional part"
  | .notFinite => "Input should be a finite number"
  | .negative => "Input should be greater than or equal to 0"
  | .notNumber => "Input should be a valid number"
  | .unreadableNumber => "Input should be a valid number, unable to parse string as a number"
  | .notBoolean => "Input should be a valid boolean"
  | .unreadableBoolean => "Input should be a valid boolean, unable to interpret input"
  | .notKind => "Input should be 'string', 'integer', 'float', 'boolean', 'atom', 'map' or 'list'"
  | .notPattern => "Input should be a valid pattern"
  | .malformedPattern => "Input should be a valid regular expression"
  | .notTuple => "Input should be a valid tuple"
  | .notLiteral expected => "Input should be '" ++ expected ++ "'"
  | .noTag => "Unable to extract tag using discriminator 'kind'"
  | .unknownTag tag => "Input tag '" ++ tag ++
      "' found using 'kind' does not match any of the expected tags: " ++ tagList
  | .broken rule => "Value error, " ++ rule
  | .frozen => "Instance is frozen"

end FaultKind

/-- A fault and the way to it. -/
structure Fault where
  location : List Step
  kind : FaultKind
  deriving DecidableEq, Inhabited

/-- Why a model cannot be read: its parts are at fault, or a pattern among them cannot be counted
out. -/
inductive Unreadable where
  | faults (faults : List Fault)
  | repetitionTooLarge
  deriving DecidableEq, Inhabited

/-- The outcome of reading a part. -/
abbrev Reading (α : Type) := Except Unreadable α

namespace Reading

variable {α β : Type}

/-- A part at fault by itself. -/
def fault (k : FaultKind) : Reading α :=
  .error (.faults [⟨[], k⟩])

/-- The faults of a part, seen from what it is a part of. -/
def under (step : Step) (r : Reading α) : Reading α :=
  r.mapError fun e => match e with
    | .faults fs => .faults (fs.map fun f => { f with location := step :: f.location })
    | e => e

/-- Two parts, the faults of both. -/
def both (a : Reading α) (b : Reading β) : Reading (α × β) :=
  match a, b with
  | .ok x, .ok y => .ok (x, y)
  | .error (.faults fs), .error (.faults gs) => .error (.faults (fs ++ gs))
  | .error (.faults _), .error e => .error e
  | .error e, _ => .error e
  | _, .error e => .error e

/-- Parts in order, the faults of all. -/
def all : List (Reading α) → Reading (List α)
  | [] => .ok []
  | r :: rest => (both r (all rest)).map fun (x, xs) => x :: xs

end Reading

/-- A model that could not be read, by its title. -/
structure ModelFault where
  title : String
  faults : List Fault
  deriving DecidableEq, Inhabited

namespace ModelFault

/-- The headline of the refusal: how many faults there are. -/
def headline (m : ModelFault) : String :=
  toString m.faults.length ++ " validation error" ++ (if m.faults.length = 1 then "" else "s") ++
    " for " ++ m.title

end ModelFault

end DataContract

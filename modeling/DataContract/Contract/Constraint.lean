/-
Constraints on single values.

A constraint that cannot act on the value before it lets the value pass. Lengths count grapheme
clusters, bounds compare exactly, and a value is one of the configured ones only if it has the same
runtime type and is equal. `Constraint.check` answers with the message of a value that fails.
-/
import DataContract.Contract.FieldType
import DataContract.Text.Grapheme

namespace DataContract

/-- What numbers are compared with. A member of an enumeration given as a bound stands for what is
assigned to it, even for a text, a list or a map, with which no number compares. -/
inductive Bound where
  | number (n : Number)
  | text (s : String)
  | list (items : List Value)
  | tuple (items : List Value)
  | map (entries : List (Value × Value))
  deriving Inhabited

namespace Bound

/-- A bound as a value. -/
def toValue : Bound → Value
  | .number (.int n) => .int n
  | .number (.double x) => .float x
  | .text s => .text s
  | .list items => .list items
  | .tuple items => .tuple items
  | .map entries => .map entries

/-- The bound that a value is. -/
def ofValue? : Value → Option Bound
  | .int n => some (.number (.int n))
  | .float x => some (.number (.double x))
  | .text s => some (.text s)
  | .sequence .list items => some (.list items)
  | .sequence .tuple items => some (.tuple items)
  | .mapping .plain entries => some (.map entries)
  | _ => none

end Bound

/-- A constraint on a value. -/
inductive Constraint where
  | format (pattern : Pattern)
  | minLength (length : Nat)
  | maxLength (length : Nat)
  | min (bound : Bound)
  | max (bound : Bound)
  | oneOf (values : List Value)
  deriving Inhabited

/-- Why a check comes to no answer. -/
inductive CheckFault where
  | bytesPattern
  | tooManyDigits
  /-- A number of the type is compared with a value of a type that is no number's. -/
  | unordered (sign type other : String)
  deriving DecidableEq, Inhabited

namespace CheckFault

/-- What the failure of a check reads. -/
def message : CheckFault → String
  | .bytesPattern => BytesPattern.message
  | .tooManyDigits => TooManyDigits.message
  | .unordered sign type other =>
    "'" ++ sign ++ "' not supported between instances of '" ++ type ++ "' and '" ++ other ++ "'"

/-- Carries on where a text could be written. -/
def ofText {α : Type} : Except TooManyDigits α → Except CheckFault α
  | .ok a => .ok a
  | .error _ => .error .tooManyDigits

/-- Carries on where a pattern could search. -/
def ofSearch {α : Type} : Except BytesPattern α → Except CheckFault α
  | .ok a => .ok a
  | .error _ => .error .bytesPattern

end CheckFault

/-- The constraints' kinds. -/
inductive ConstraintKind where
  | format
  | minLength
  | maxLength
  | min
  | max
  | oneOf
  deriving DecidableEq, Inhabited

namespace ConstraintKind

/-- All kinds, in the order they are listed in messages. -/
def all : List ConstraintKind :=
  [.format, .minLength, .maxLength, .min, .max, .oneOf]

/-- The keyword of a kind. -/
def keyword : ConstraintKind → String
  | .format => "format"
  | .minLength => "min_length"
  | .maxLength => "max_length"
  | .min => "min"
  | .max => "max"
  | .oneOf => "one_of"

/-- The kind with a keyword. -/
def ofKeyword? (s : String) : Option ConstraintKind :=
  all.find? (·.keyword = s)

/-- Whether constraints of the kind act on texts alone. -/
def actsOnText : ConstraintKind → Bool
  | .format => true
  | .minLength => true
  | .maxLength => true
  | _ => false

/-- Whether constraints of the kind act on numbers alone. -/
def actsOnNumbers : ConstraintKind → Bool
  | .min => true
  | .max => true
  | _ => false

end ConstraintKind

namespace Constraint

/-- The kind of a constraint. -/
def kind : Constraint → ConstraintKind
  | .format _ => .format
  | .minLength _ => .minLength
  | .maxLength _ => .maxLength
  | .min _ => .min
  | .max _ => .max
  | .oneOf _ => .oneOf

/-- Whether a value is one of those configured: of the same runtime type and equal. -/
def isOneOf (values : List Value) (v : Value) : Bool :=
  values.any fun w => w.typeName == v.typeName && w == v

/-- The configured values in a message. -/
def configuredTexts : List Value → Except TooManyDigits (List String)
  | [] => .ok []
  | v :: rest => do
    let first ← v.configured
    let others ← configuredTexts rest
    return first :: others

/-- The message of a value that fails a constraint; none if it passes. -/
def check (c : Constraint) (v : Value) : Except CheckFault (Option String) :=
  match c with
  | .format pattern =>
    match v.asText? with
    | none => .ok none
    | some s => do
      let found ← CheckFault.ofSearch (pattern.search s)
      return if found then none else some "does not match format"
  | .minLength length =>
    match v.asText? with
    | none => .ok none
    | some s =>
      if length ≤ graphemeCount s then .ok none
      else do
        let n ← CheckFault.ofText (decimalText length)
        return some ("must be at least " ++ n ++ " characters (minimum length)")
  | .maxLength length =>
    match v.asText? with
    | none => .ok none
    | some s =>
      if graphemeCount s ≤ length then .ok none
      else do
        let n ← CheckFault.ofText (decimalText length)
        return some ("must be at most " ++ n ++ " characters (maximum length)")
  | .min bound =>
    match v.asNumber?, bound with
    | none, _ => .ok none
    | some n, .number bound =>
      if bound.le n then .ok none
      else do
        let b ← CheckFault.ofText bound.text
        return some ("must be >= " ++ b ++ " (minimum value)")
    | some _, other => .error (.unordered ">=" v.typeName other.toValue.typeName)
  | .max bound =>
    match v.asNumber?, bound with
    | none, _ => .ok none
    | some n, .number bound =>
      if n.le bound then .ok none
      else do
        let b ← CheckFault.ofText bound.text
        return some ("must be <= " ++ b ++ " (maximum value)")
    | some _, other => .error (.unordered "<=" v.typeName other.toValue.typeName)
  | .oneOf values =>
    if isOneOf values v then .ok none
    else do
      let allowed ← CheckFault.ofText (configuredTexts values)
      return some ("must be one of: " ++ ", ".intercalate allowed)

/-- The messages of a value under several constraints, in their order. -/
def checkAll : List Constraint → Value → Except CheckFault (List String)
  | [], _ => .ok []
  | c :: rest, v => do
    let first ← c.check v
    let others ← checkAll rest v
    return first.toList ++ others

/-- Whether a constraint can never act on a value of the type. -/
def inapplicable (t : FieldType) (c : Constraint) : Bool :=
  if c.kind.actsOnText then t ≠ .kind .string
  else if c.kind.actsOnNumbers then t ≠ .kind .integer && t ≠ .kind .float
  else false

end Constraint

end DataContract

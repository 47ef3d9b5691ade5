/-
Values from YAML texts.

`Node.toValue` gives the value that a node writes. The maps that a map merges in come before its own
entries, the first of several last, so that the own ones win and the earlier ones over the later.
`Yaml.read` reads a whole text, which holds at most one document; without one the value is null.
-/
import DataContract.Yaml.Node
import DataContract.Yaml.Number
import DataContract.Yaml.Token.Lexer

namespace DataContract

namespace YamlFault

/-- What a fault reads; of a malformed text it says nothing. -/
def message : YamlFault → String
  | .malformed => ""
  | .notCharacter => "chr() arg not in range(0x110000)"
  | .calendar fault => fault.message
  | .notTimestamp => "'NoneType' object has no attribute 'groupdict'"
  | .notInteger base text =>
    "invalid literal for int() with base " ++ toString base ++ ": " ++ Text.quoted text
  | .tooManyDigits count => TooManyDigits.readMessage count
  | .notNumber text => "could not convert string to float: " ++ Text.quoted text
  | .emptyNumber => "string index out of range"
  | .notTruth word => Text.quoted word

end YamlFault

namespace Yaml

/-- The truth value of a word in any case. -/
def truthOf (s : String) : Except YamlFault Bool :=
  let word := s.map lowerCase
  if ["yes", "true", "on"].contains word then .ok true
  else if ["no", "false", "off"].contains word then .ok false
  else .error (.notTruth word)

/-- The date or time of a text. -/
def timestampOf (s : String) : Except YamlFault Value :=
  match Timestamp.read? s.toList with
  | none => .error .notTimestamp
  | some t =>
    match t.toValue with
    | .ok v => .ok v
    | .error e => .error (.calendar e)

/-- The value of a scalar with a tag. -/
def scalarValue (t : Tag) (s : String) : Except YamlFault Value :=
  match t with
  | .null => .ok .null
  | .bool => (truthOf s).map Value.bool
  | .int => (integerOf s).map Value.int
  | .float => (doubleOf s).map Value.float
  | .binary =>
    match Base64.decode? s with
    | some b => .ok (.bytes b)
    | none => .error .malformed
  | .timestamp => timestampOf s
  | .text => .ok (.text s)
  | _ => .error .malformed

/-- A value that may be a key. -/
def asKey (v : Value) : Except YamlFault Value :=
  if v.unhashable?.isSome then .error .malformed else .ok v

namespace Node

/-- The tag of a node. -/
def tag : Node → Tag
  | .scalar t _ => t
  | .sequence t _ => t
  | .mapping t _ => t

mutual

/-- The scalar that a node stands for: itself, or what a mapping has under the key for a value. -/
def scalarText? : Node → Option String
  | .scalar _ s => some s
  | .sequence _ _ => none
  | .mapping _ es => scalarUnderValue? es

/-- The scalar under the key for a value. -/
def scalarUnderValue? : List (Node × Node) → Option String
  | [] => none
  | (k, v) :: rest => if k.tag = .value then scalarText? v else scalarUnderValue? rest

end

/-- The value of a node that should be a scalar. -/
def scalarLike (t : Tag) (text : Option String) : Except YamlFault Value :=
  match text with
  | some s => scalarValue t s
  | none => .error .malformed

/-- Entries of a mapping: those that are merged in, and its own. -/
structure Parts where
  merged : List (Value × Value)
  own : List (Value × Value)

/-- All entries, those merged in first. -/
def Parts.entries (p : Parts) : List (Value × Value) :=
  Value.ofEntries (p.merged ++ p.own)

mutual

/-- The value that a node writes. -/
def toValue : Node → Except YamlFault Value
  | .scalar t s => scalarValue t s
  | .sequence t items =>
    match t with
    | .sequence => (itemValues items).map Value.list
    | .orderedPairs => (pairValues items).map Value.list
    | _ => .error .malformed
  | .mapping t es =>
    match t with
    | .mapping => (partsOf es).map fun p => .map p.entries
    | .set => (partsOf es).map fun p => Value.setOf (p.entries.map (·.1))
    | t => scalarLike t (scalarUnderValue? es)

/-- The values of items in order. -/
def itemValues : List Node → Except YamlFault (List Value)
  | [] => .ok []
  | n :: rest => do
    let first ← toValue n
    let others ← itemValues rest
    return first :: others

/-- The value of a node as a key; the key for a value is a text here. -/
def keyValue : Node → Except YamlFault Value
  | .scalar .value s => .ok (.text s)
  | n => do
    let v ← toValue n
    asKey v

/-- The entries of a mapping by where they come from. -/
def partsOf : List (Node × Node) → Except YamlFault Parts
  | [] => .ok ⟨[], []⟩
  | (k, v) :: rest =>
    if k.tag = .merge then do
      let merged ← mergedEntries v
      let others ← partsOf rest
      return ⟨merged ++ others.merged, others.own⟩
    else do
      let key ← keyValue k
      let value ← toValue v
      let others ← partsOf rest
      return ⟨others.merged, (key, value) :: others.own⟩

/-- The entries that a node under the key for merging brings: a mapping, or mappings in a sequence. -/
def mergedEntries : Node → Except YamlFault (List (Value × Value))
  | .scalar _ _ => .error .malformed
  | .mapping _ es => (partsOf es).map fun p => p.merged ++ p.own
  | .sequence _ items => mergedItems items

/-- The entries of mappings, those of the first last. -/
def mergedItems : List Node → Except YamlFault (List (Value × Value))
  | [] => .ok []
  | .mapping _ es :: rest => do
    let first ← partsOf es
    let others ← mergedItems rest
    return others ++ (first.merged ++ first.own)
  | _ :: _ => .error .malformed

/-- The pairs of mappings with one entry each. -/
def pairValues : List Node → Except YamlFault (List Value)
  | [] => .ok []
  | .mapping _ [(k, v)] :: rest => do
    let key ← toValue k
    let value ← toValue v
    let others ← pairValues rest
    return .tuple [key, value] :: others
  | _ :: _ => .error .malformed

end

end Node

/-- Reads a YAML text. -/
def read (s : String) : Except YamlFault Value := do
  let tokens ← Token.ofText s.toList
  match ← Node.ofTokens tokens with
  | none => return .null
  | some n => n.toValue

end Yaml

end DataContract

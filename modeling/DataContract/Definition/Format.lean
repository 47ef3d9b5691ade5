/-
The format of definition documents.

A document is a map with the one key `contracts`, under which each name has a list of fields. A
field is a map with a name and a type, and perhaps `required`, `constraints` and `fields`; a type is
the name of a kind, or a map with the type of a list's items under `list`; a constraint is a map
from one keyword to a value fit for it. `Definition.faults` lists what a document breaks, with the
way to each part; `Definition.check` is the refusal, its lines in the order of those ways.
-/
import DataContract.Reading.Model

namespace DataContract

/-- A step on the way to a part of a document. -/
inductive DocumentStep where
  | index (n : Nat)
  | key (k : Value)
  deriving Inhabited

/-- What a part of a document breaks. -/
inductive FormatRule where
  /-- A value of another type is expected. -/
  | ofType (v : Value) (expected : String)
  /-- A key is missing. -/
  | needs (key : String)
  /-- Keys are there that mean nothing. -/
  | strayKeys (keys : List Value)
  /-- The value spells no type. -/
  | ofNoType (v : Value)
  /-- The value should not be negative. -/
  | atLeastZero (v : Value)
  /-- The value should not be empty. -/
  | notEmpty (v : Value)
  /-- The map should have a single entry. -/
  | singleEntry (v : Value)
  deriving Inhabited

/-- A broken rule and the way to the part that breaks it. -/
structure FormatFault where
  path : List DocumentStep
  rule : FormatRule
  deriving Inhabited

/-- Why no report of faults can be written: a key on the way to one is no text, no integer and not
null, or an integer is too long. -/
inductive UnwritableReport where
  | keyType (type : String)
  | bytesKey
  | tooManyDigits
  deriving DecidableEq, Inhabited

/-- What the lack of a report reads. -/
def UnwritableReport.message : UnwritableReport → String
  | .keyType type => "expected string or bytes-like object, got '" ++ type ++ "'"
  | .bytesKey => "cannot use a string pattern on a bytes-like object"
  | .tooManyDigits => TooManyDigits.message

/-- A definition that is refused: where it comes from, and what is wrong with it. -/
structure Malformed where
  source : String
  errors : List String
  /-- The model that could not be read, where that is what is wrong. -/
  cause : Option ModelFault
  deriving DecidableEq, Inhabited

/-- What the refusal of a definition reads: the first three errors, and how many more there are. -/
def Malformed.message (m : Malformed) : String :=
  let shown := "; ".intercalate (m.errors.take 3)
  let more := m.errors.length - 3
  "Invalid contract definition [" ++ m.source ++ "]: " ++ shown ++
    (if more = 0 then "" else " ... and " ++ toString more ++ " more")

namespace DocumentStep

/-- Whether a name can stand in a path without quotes: letters, digits and underscores after a
letter, and perhaps a line feed at the end. -/
def isPlain (cs : List Char) : Bool :=
  let body := if cs.getLast? = some '\n' then cs.dropLast else cs
  match body with
  | [] => false
  | c :: rest => c.isAlpha && rest.all fun d => d.isAlphanum || d = '_'

/-- A name between brackets and quotes. -/
def bracketed (cs : List Char) : String :=
  let escaped := cs.flatMap fun c => if c = '\\' ∨ c = '\'' then ['\\', c] else [c]
  "['" ++ String.ofList escaped ++ "']"

/-- A step as a path writes it; null stands for no step. -/
def text : DocumentStep → Except UnwritableReport String
  | .index n => .ok ("[" ++ toString n ++ "]")
  | .key k =>
    match k.asText?, k.comparable?, k with
    | some s, _, _ => .ok (if isPlain s.toList then "." ++ s else bracketed s.toList)
    | none, some (.int _), k =>
      match k.display with
      | .ok s => .ok ("[" ++ s ++ "]")
      | .error _ => .error .tooManyDigits
    | none, _, .null => .ok ""
    | none, _, .bytes _ => .error .bytesKey
    | none, _, k => .error (.keyType k.typeName)

end DocumentStep

namespace FormatRule

/-- Texts of values in order. -/
def texts (write : Value → Except TooManyDigits String) :
    List Value → Except TooManyDigits (List String)
  | [] => .ok []
  | v :: rest => do
    let first ← write v
    let others ← texts write rest
    return first :: others

/-- Values in the order of their texts. -/
def sortedByText (vs : List Value) : Except TooManyDigits (List Value) := do
  let keys ← texts Value.display vs
  let sorted := (keys.zip vs).mergeSort fun a b => !decide (b.1 < a.1)
  return sorted.map (·.2)

/-- The value as written, and what is said of it. -/
def about (v : Value) (said : String) : Except TooManyDigits String := do
  let shown ← v.quoted
  return shown ++ said

/-- What a broken rule reads. -/
def message : FormatRule → Except TooManyDigits String
  | .ofType v expected => about v (" is not of type '" ++ expected ++ "'")
  | .needs key => .ok (Text.quoted key ++ " is a required property")
  | .strayKeys keys => do
    let sorted ← sortedByText keys
    let shown ← texts Value.quoted sorted
    let verb := if keys.length = 1 then " was" else " were"
    return "Additional properties are not allowed (" ++ ", ".intercalate shown ++ verb ++
      " unexpected)"
  | .ofNoType v => about v " is not valid under any of the given schemas"
  | .atLeastZero v => about v " is less than the minimum of 0"
  | .notEmpty v => about v " should be non-empty"
  | .singleEntry v => about v " has too many properties"

end FormatRule

namespace FormatFault

/-- A fault of the value at hand. -/
def here (rule : FormatRule) : FormatFault := ⟨[], rule⟩

/-- A fault of a part, seen from what it is a part of. -/
def under (step : DocumentStep) (f : FormatFault) : FormatFault :=
  { f with path := step :: f.path }

/-- Steps as a path writes them. -/
def pathText : List DocumentStep → Except UnwritableReport String
  | [] => .ok ""
  | s :: rest => do
    let first ← s.text
    let others ← pathText rest
    return first ++ others

end FormatFault

namespace Definition

/-- The entries of a map that a document may hold: any but a view. -/
def objectEntries? : Value → Option (List (Value × Value))
  | .mapping k es => if k.isOwn then some es else none
  | _ => none

/-- The items of a list. -/
def arrayItems? : Value → Option (List Value)
  | .sequence k items => if k.grows then some items else none
  | _ => none

/-- Whether a value is an integer, or a double that is a whole number. -/
def isWhole (v : Value) : Bool :=
  match v.asNumber? with
  | some (.int _) => true
  | some (.double x) => x.toInt?.isSome
  | none => false

/-- One fault where a condition should hold and does not. -/
def expect (holds : Bool) (rule : FormatRule) : List FormatFault :=
  if holds then [] else [.here rule]

/-- The keys that must be there and are not. -/
def missingKeys (keys : List String) (es : List (Value × Value)) : List FormatFault :=
  keys.flatMap fun key => expect (Value.lookup? (.text key) es).isSome (.needs key)

/-- The keys that mean nothing. -/
def strayKeys (known : List String) (es : List (Value × Value)) : List FormatFault :=
  let stray := (es.map (·.1)).filter fun k => !known.any fun key => Value.text key == k
  expect stray.isEmpty (.strayKeys stray)

/-- The faults of the value under a key, if there is one. -/
def atKeyFaults (key : String) (es : List (Value × Value)) (faults : Value → List FormatFault) :
    List FormatFault :=
  match Value.lookup? (.text key) es with
  | some v => (faults v).map (.under (.key (.text key)))
  | none => []

/-- The faults of a value that should be of a type by a test. -/
def typed (test : Value → Bool) (expected : String) (v : Value) : List FormatFault :=
  expect (test v) (.ofType v expected)

/-- The faults of a text. -/
def textFaults (v : Value) : List FormatFault :=
  typed (·.asText?.isSome) "string" v

/-- The faults of a name: a text that is not empty. -/
def nameFaults (v : Value) : List FormatFault :=
  match v.asText? with
  | none => textFaults v
  | some s => expect (s ≠ "") (.notEmpty v)

/-- The faults of a truth value. -/
def flagFaults (v : Value) : List FormatFault :=
  typed (fun v => match v with
    | .bool _ => true
    | _ => false) "boolean" v

/-- The faults of a number. -/
def numberFaults (v : Value) : List FormatFault :=
  typed (·.asNumber?.isSome) "number" v

/-- The faults of a length: a whole number, and no number below zero. -/
def lengthFaults (v : Value) : List FormatFault :=
  let low := match v.asNumber? with
    | some n => !(Number.int 0).le n && n.point?.isSome
    | none => false
  typed isWhole "integer" v ++ expect (!low) (.atLeastZero v)

/-- The faults of the values to choose from: a list with at least one. -/
def choiceFaults (v : Value) : List FormatFault :=
  match arrayItems? v with
  | none => [.here (.ofType v "array")]
  | some items => expect (!items.isEmpty) (.notEmpty v)

/-- The faults of what a constraint's keyword is given. -/
def parameterFaults : ConstraintKind → Value → List FormatFault
  | .format => textFaults
  | .minLength => lengthFaults
  | .maxLength => lengthFaults
  | .min => numberFaults
  | .max => numberFaults
  | .oneOf => choiceFaults

/-- The faults of a constraint. -/
def constraintFaults (v : Value) : List FormatFault :=
  match objectEntries? v with
  | none => [.here (.ofType v "object")]
  | some es =>
    expect (!es.isEmpty) (.notEmpty v) ++ expect (es.length ≤ 1) (.singleEntry v) ++
      ConstraintKind.all.flatMap (fun k => atKeyFaults k.keyword es (parameterFaults k)) ++
      strayKeys (ConstraintKind.all.map (·.keyword)) es

/-- The faults of items by their own faults, each under its index. -/
def eachFaults (faults : Value → List FormatFault) (items : List Value) : List FormatFault :=
  items.zipIdx.flatMap fun (v, i) => (faults v).map (.under (.index i))

/-- The faults of a list of constraints. -/
def constraintListFaults (v : Value) : List FormatFault :=
  match arrayItems? v with
  | none => [.here (.ofType v "array")]
  | some items => eachFaults constraintFaults items

mutual

/-- Whether a value spells a type. -/
def spellsType : Value → Bool
  | .mapping k es => k.isOwn && es.length == 1 && itemsSpellType es
  | v => (v.asText?.bind FieldKind.ofName?).isSome

/-- Whether the type of a list's items is spelled under `list`. -/
def itemsSpellType : List (Value × Value) → Bool
  | [] => false
  | (k, v) :: rest => if Value.text "list" == k then spellsType v else itemsSpellType rest

end

/-- The faults of a type. -/
def typeFaults (v : Value) : List FormatFault :=
  expect (spellsType v) (.ofNoType v)

/-- The keys of a field. -/
def fieldKeys : List String :=
  ["name", "type", "required", "constraints", "fields"]

/-- The faults of a field's entries, given those of the fields inside it. -/
def fieldEntryFaults (es : List (Value × Value)) (inside : List FormatFault) : List FormatFault :=
  missingKeys ["name", "type"] es ++ atKeyFaults "name" es nameFaults ++
    atKeyFaults "type" es typeFaults ++ atKeyFaults "required" es flagFaults ++
    atKeyFaults "constraints" es constraintListFaults ++ inside ++ strayKeys fieldKeys es

mutual

/-- The faults of a field. -/
def fieldFaults : Value → List FormatFault
  | .mapping k es =>
    if k.isOwn then fieldEntryFaults es (insideFaults es) else [.here (.ofType (.mapping k es) "object")]
  | v => [.here (.ofType v "object")]

/-- The faults of the fields inside a field. -/
def insideFaults : List (Value × Value) → List FormatFault
  | [] => []
  | (k, v) :: rest =>
    if Value.text "fields" == k then (fieldListFaults v).map (.under (.key (.text "fields")))
    else insideFaults rest

/-- The faults of a list of fields. -/
def fieldListFaults : Value → List FormatFault
  | .sequence k items =>
    if k.grows then fieldItemFaults 0 items else [.here (.ofType (.sequence k items) "array")]
  | v => [.here (.ofType v "array")]

/-- The faults of fields, each under its index. -/
def fieldItemFaults : Nat → List Value → List FormatFault
  | _, [] => []
  | i, v :: rest => (fieldFaults v).map (.under (.index i)) ++ fieldItemFaults (i + 1) rest

end

/-- The faults of the contracts under their names. -/
def contractsFaults (v : Value) : List FormatFault :=
  match objectEntries? v with
  | none => [.here (.ofType v "object")]
  | some es => es.flatMap fun (name, fields) => (fieldListFaults fields).map (.under (.key name))

/-- The faults of a document, in the order they are found. -/
def faults (document : Value) : List FormatFault :=
  match objectEntries? document with
  | none => [.here (.ofType document "object")]
  | some es =>
    missingKeys ["contracts"] es ++ atKeyFaults "contracts" es contractsFaults ++
      strayKeys ["contracts"] es

/-- What faults read, in order. -/
def faultTexts : List FormatFault → Except UnwritableReport (List String)
  | [] => .ok []
  | f :: rest =>
    match f.rule.message with
    | .error _ => .error .tooManyDigits
    | .ok first => do
      let others ← faultTexts rest
      return first :: others

/-- The ways to faults, in order. -/
def faultPaths : List FormatFault → Except UnwritableReport (List String)
  | [] => .ok []
  | f :: rest => do
    let first ← FormatFault.pathText f.path
    let others ← faultPaths rest
    return ("$" ++ first) :: others

/-- The lines of a report on faults, sorted by the ways to them. -/
def lines (fs : List FormatFault) : Except UnwritableReport (List String) := do
  let texts ← faultTexts fs
  let paths ← faultPaths fs
  let sorted := (paths.zip texts).mergeSort fun a b => !decide (b.1 < a.1)
  return sorted.map fun (path, text) => path ++ ": " ++ text

/-- What is wrong with a document that does not follow the format, if anything is. -/
def check (document : Value) (source : String) : Except UnwritableReport (Option Malformed) := do
  let errors ← lines (faults document)
  return if errors.isEmpty then none else some ⟨source, errors, none⟩

end Definition

end DataContract

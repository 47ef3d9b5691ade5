/-
Equality of values, and looking up keys.

Numbers are equal by value whatever their kind (`1`, `1.0`, true and a member that is its number),
texts by their characters; lists equal lists and tuples tuples, item by item; maps are equal if
they have equal keys with equal values, in the same order only where both are of the ordered kind.
Members that are lists or maps are equal to what they are.
A handle equals itself alone, and NaN nothing.
-/
import DataContract.Value.Basic

namespace DataContract.Value

/-- The number that a value counts as in a comparison, truth values included. -/
def comparable? : Value → Option Number
  | .bool b => some (.int (if b then 1 else 0))
  | v => v.asNumber?

/-- Equality of two values neither of which has parts. -/
def beqAtomic (a b : Value) : Bool :=
  match a.comparable?, b.comparable? with
  | some m, some n => m.beq n
  | _, _ =>
    match a.asText?, b.asText? with
    | some s, some t => s == t
    | _, _ =>
      match a, b with
      | .null, .null => true
      | .atom x, .atom y => x == y
      | .bytes x, .bytes y => x == y
      | .date x, .date y => x == y
      | .dateTime x, .dateTime y => x.sameMoment y
      | .pattern x, .pattern y => x.source == y.source && x.options == y.options
      | .handle x, .handle y => x == y
      | _, _ => false

mutual

/-- Equality of values. -/
def beq : Value → Value → Bool
  | .sequence k xs, .sequence l ys => k.grows == l.grows && beqItems xs ys
  | .mapping .ordered xs, .mapping .ordered ys => beqOrdered xs ys
  | .mapping _ xs, .mapping _ ys => xs.length == ys.length && withinEntries xs ys
  | .set xs, .set ys => xs.length == ys.length && withinItems xs ys
  | .record m xs, .record n ys => m == n && beqFields xs ys
  | .null, b => beqAtomic .null b
  | .bool x, b => beqAtomic (.bool x) b
  | .int x, b => beqAtomic (.int x) b
  | .float x, b => beqAtomic (.float x) b
  | .text x, b => beqAtomic (.text x) b
  | .atom x, b => beqAtomic (.atom x) b
  | .bytes x, b => beqAtomic (.bytes x) b
  | .date x, b => beqAtomic (.date x) b
  | .dateTime x, b => beqAtomic (.dateTime x) b
  | .pattern x, b => beqAtomic (.pattern x) b
  | .handle x, b => beqAtomic (.handle x) b
  | _, _ => false

/-- Equality of items one by one. -/
def beqItems : List Value → List Value → Bool
  | [], [] => true
  | x :: xs, y :: ys => beq x y && beqItems xs ys
  | _, _ => false

/-- Equality of entries one by one. -/
def beqOrdered : List (Value × Value) → List (Value × Value) → Bool
  | [], [] => true
  | (k, v) :: xs, (l, w) :: ys => beq k l && beq v w && beqOrdered xs ys
  | _, _ => false

/-- Whether every entry has an equal one among others. -/
def withinEntries : List (Value × Value) → List (Value × Value) → Bool
  | [], _ => true
  | (k, v) :: xs, ys => ys.any (fun e => beq k e.1 && beq v e.2) && withinEntries xs ys

/-- Whether every item has an equal one among others. -/
def withinItems : List Value → List Value → Bool
  | [], _ => true
  | x :: xs, ys => ys.any (beq x ·) && withinItems xs ys

/-- Equality of named fields one by one. -/
def beqFields : List (String × Value) → List (String × Value) → Bool
  | [], [] => true
  | (k, v) :: xs, (l, w) :: ys => k == l && beq v w && beqFields xs ys
  | _, _ => false

end

instance : BEq Value := ⟨beq⟩

/-- The value a map holds under a key. -/
def lookup? (key : Value) (entries : List (Value × Value)) : Option Value :=
  (entries.find? fun e => key == e.1).map (·.2)

/-- Puts a value under a key: an equal key keeps its place and its spelling. -/
def insert (entries : List (Value × Value)) (key value : Value) : List (Value × Value) :=
  if entries.any (fun e => key == e.1) then
    entries.map fun e => if key == e.1 then (e.1, value) else e
  else entries ++ [(key, value)]

/-- A map from entries given in order: of equal keys the first stays, with the last value. -/
def ofEntries (entries : List (Value × Value)) : List (Value × Value) :=
  entries.foldl (fun es e => insert es e.1 e.2) []

/-- The order in which a set shows its members: whole numbers from the least to the greatest, texts
by their characters, and members of any other kind as they came. -/
def setOrder (items : List Value) : List Value :=
  let ints := items.filterMap fun v => match v with
    | .int n => some n
    | _ => none
  let texts := items.filterMap fun v => match v with
    | .text s => some s
    | _ => none
  if ints.length = items.length then (ints.mergeSort (· ≤ ·)).map Value.int
  else if texts.length = items.length then (texts.mergeSort fun s t => decide (s ≤ t)).map Value.text
  else items

/-- The members of a set given in order: of equal ones the first stays. -/
def ofMembers (items : List Value) : List Value :=
  items.foldl (fun xs x => if xs.any (x == ·) then xs else xs ++ [x]) []

/-- A set of the values given. -/
def setOf (items : List Value) : Value :=
  .set (setOrder (ofMembers items))

mutual

/-- The type that keeps a value from being a key, if one does. -/
def unhashable? : Value → Option String
  | .sequence k items => if k.grows then some k.typeName else unhashableItem? items
  | .mapping .ordered _ => some "collections.OrderedDict"
  | .mapping k _ => some k.typeName
  | .set _ => some "set"
  | .record _ fields => unhashableField? fields
  | _ => none

/-- The type of the first item that keeps a tuple from being a key. -/
def unhashableItem? : List Value → Option String
  | [] => none
  | x :: xs => (unhashable? x).orElse fun _ => unhashableItem? xs

/-- The type of the first field that keeps a record from being a key. -/
def unhashableField? : List (String × Value) → Option String
  | [] => none
  | (_, x) :: xs => (unhashable? x).orElse fun _ => unhashableField? xs

end

end DataContract.Value

/-
What values amount to when they are gone through: items, or the entries of a map.

* `Value.iterate?` — the items of a value;
* `Value.entriesIn` — the entries of a map of any kind, or of a row of pairs in any form, the later
  of two equal keys giving the value.
-/
import DataContract.Value.Equality

namespace DataContract

/-- Why a value does not amount to entries. -/
inductive EntriesFault where
  /-- It is no map and cannot be gone through. -/
  | notIterable (type : String)
  /-- An item is no pair. -/
  | notPair (index : Nat)
  | pairLength (index length : Nat)
  | unhashable (type : String)
  deriving DecidableEq, Inhabited

/-- What the lack of entries reads. -/
def EntriesFault.message : EntriesFault → String
  | .notIterable type => "'" ++ type ++ "' object is not iterable"
  | .notPair index =>
    "cannot convert dictionary update sequence element #" ++ toString index ++ " to a sequence"
  | .pairLength index length =>
    "dictionary update sequence element #" ++ toString index ++ " has length " ++ toString length ++
      "; 2 is required"
  | .unhashable type => "unhashable type: '" ++ type ++ "'"

namespace Value

/-- The items of a value that can be gone through: characters, bytes, keys, members, items, or the
fields of a record with their names. -/
def iterate? (v : Value) : Option (List Value) :=
  match v.asText?, v with
  | some s, _ => some (s.toList.map fun c => .text (String.singleton c))
  | none, .bytes b => some (b.map fun n => .int n.toNat)
  | none, .sequence _ items => some items
  | none, .mapping _ entries => some (entries.map (·.1))
  | none, .set items => some items
  | none, .record _ fields => some (fields.map fun (k, w) => .tuple [.text k, w])
  | none, _ => none

/-- The entry that an item is, a pair in whatever form. -/
def entryOf (index : Nat) (item : Value) : Except EntriesFault (Value × Value) :=
  match item.iterate? with
  | none => .error (.notPair index)
  | some [key, value] =>
    match key.unhashable? with
    | none => .ok (key, value)
    | some type => .error (.unhashable type)
  | some parts => .error (.pairLength index parts.length)

/-- The entries that items are, counted from an index on. -/
def entriesOfItems : Nat → List Value → Except EntriesFault (List (Value × Value))
  | _, [] => .ok []
  | index, item :: rest => do
    let first ← entryOf index item
    let others ← entriesOfItems (index + 1) rest
    return first :: others

/-- The entries that a value amounts to. -/
def entriesIn (v : Value) : Except EntriesFault (List (Value × Value)) :=
  match v, v.iterate? with
  | .mapping _ es, _ => .ok es
  | _, some items => (entriesOfItems 0 items).map ofEntries
  | v, none => .error (.notIterable v.qualifiedTypeName)

/-- Entries with others put over them: a key that is there already keeps its place. -/
def overlaid (es others : List (Value × Value)) : List (Value × Value) :=
  others.foldl (fun es (k, v) => insert es k v) es

end Value

end DataContract

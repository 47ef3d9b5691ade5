/-
Sets of code points, as tables of a character property.

A set is the increasing list of the points where membership turns: from the first on a code point
is in, from the second on out again, and so forth. `CodeSet.contains` asks whether an odd number of
turns lies at or below the point.
-/

namespace DataContract

/-- A set of code points by its turns, in increasing order. -/
structure CodeSet where
  turns : Array Nat
  deriving Inhabited

namespace CodeSet

/-- How many of the turns from `low` to `high` lie at or below `point`, added to `low`: halves the
stretch each time. -/
def countFrom (turns : Array Nat) (point low high : Nat) : Nat :=
  if h : low < high then
    let middle := (low + high) / 2
    if turns.getD middle 0 ≤ point then countFrom turns point (middle + 1) high
    else countFrom turns point low middle
  else low
  termination_by high - low

/-- Whether the character is in the set. -/
def contains (s : CodeSet) (c : Char) : Bool :=
  countFrom s.turns c.toNat 0 s.turns.size % 2 = 1

end CodeSet

end DataContract

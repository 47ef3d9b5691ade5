/-
Lines of inheritance: one order in which to look through everything that something inherits from.

The line of a thing begins with itself and keeps the order of each of its parents' lines and of the
parents among each other. `Lineage.merge` finds it by taking, again and again, the first head of a
list that stands behind the head of no other list; where there is none, the orders contradict each
other.
-/

namespace DataContract.Lineage

variable {α : Type} [DecidableEq α]

/-- The first head of a list that stands behind the head of no list. -/
def next? (lists : List (List α)) : Option α :=
  (lists.filterMap List.head?).find? fun a => lists.all fun l => !l.tail.contains a

/-- Takes an element from the heads of lists. -/
def dropHead (a : α) (lists : List (List α)) : List (List α) :=
  lists.map fun l => if l.head? = some a then l.tail else l

/-- How many elements lists have together. -/
def total (lists : List (List α)) : Nat :=
  lists.flatten.length

/-- Merges lists, at most `count` elements of them; what remains of the lists if they contradict
each other. -/
def mergeUpTo : Nat → List (List α) → Except (List (List α)) (List α)
  | 0, _ => .ok []
  | count + 1, lists =>
    if lists.all List.isEmpty then .ok []
    else
      match next? lists with
      | none => .error lists
      | some a => (mergeUpTo count (dropHead a lists)).map (a :: ·)

/-- One list that keeps the order of each of the lists. -/
def merge (lists : List (List α)) : Except (List (List α)) (List α) :=
  mergeUpTo (total lists) lists

/-- The first element that comes again in a list. -/
def repeated? : List α → Option α
  | [] => none
  | a :: rest => if rest.contains a then some a else repeated? rest

end DataContract.Lineage

/-
Tallies: how often data was checked at boundaries, by contract and by decision.
-/

namespace DataContract

/-- What becomes of data at a boundary: it passes, it is rejected, or it is let through with a
warning. -/
inductive Decision where
  | passed
  | rejected
  | warned
  deriving DecidableEq, Inhabited

namespace Decision

/-- All decisions, in the order of their labels. -/
def all : List Decision := [.passed, .rejected, .warned]

/-- The label of a decision. -/
def label : Decision → String
  | .passed => "passed"
  | .rejected => "rejected"
  | .warned => "warned"

end Decision

/-- Counts under the labels of contracts and decisions. -/
structure Tally where
  counts : List ((String × Decision) × Nat)
  deriving Inhabited

namespace Tally

/-- The name under which the counts are published. -/
def metric : String := "perimeter_guard_checks_total"

/-- A tally in which nothing is counted. -/
def empty : Tally := ⟨[]⟩

/-- How often a decision was taken on a contract. -/
def count (t : Tally) (contract : String) (d : Decision) : Nat :=
  ((t.counts.find? (·.1 = (contract, d))).map (·.2)).getD 0

/-- Counts a decision on a contract once more. -/
def add (t : Tally) (contract : String) (d : Decision) : Tally :=
  if t.counts.any (·.1 = (contract, d)) then
    ⟨t.counts.map fun e => if e.1 = (contract, d) then (e.1, e.2 + 1) else e⟩
  else ⟨t.counts ++ [((contract, d), 1)]⟩

/-- The labels of the contracts that decisions were taken on, in order. -/
def contracts (t : Tally) : List String :=
  (t.counts.map (·.1.1)).eraseDups.mergeSort (· ≤ ·)

/-- The decisions counted on a contract, each with its count. -/
def rowsOf (t : Tally) (contract : String) : List (String × Decision × Nat) :=
  Decision.all.filterMap fun d =>
    if t.count contract d = 0 then none else some (contract, d, t.count contract d)

/-- All counts, by contract and decision. -/
def rows (t : Tally) : List (String × Decision × Nat) :=
  t.contracts.flatMap t.rowsOf

end Tally

end DataContract

/-
Patterns as trees: what a regular expression asks of a text.

`Regex` is the tree, `PatternOptions` the switches under which it is read and matched, and
`Regex.width` the least and greatest length of a match, by which a lookbehind is admitted.
-/
import DataContract.Text.Word
import DataContract.Text.Case

namespace DataContract

/-- Which characters the classes of words, digits and blanks, and case, are taken from. -/
structure Alphabets where
  ascii : Bool
  locale : Bool
  unicode : Bool
  deriving DecidableEq, Inhabited

/-- The switches of a pattern. -/
structure PatternOptions where
  ignoreCase : Bool
  multiline : Bool
  dotAll : Bool
  verbose : Bool
  template : Bool
  alphabets : Alphabets
  deriving DecidableEq, Inhabited

namespace PatternOptions

/-- All switches off. -/
def off : PatternOptions :=
  ⟨false, false, false, false, false, ⟨false, false, false⟩⟩

/-- The switches on in either. -/
def union (a b : PatternOptions) : PatternOptions :=
  ⟨a.ignoreCase || b.ignoreCase, a.multiline || b.multiline, a.dotAll || b.dotAll,
    a.verbose || b.verbose, a.template || b.template,
    ⟨a.alphabets.ascii || b.alphabets.ascii, a.alphabets.locale || b.alphabets.locale,
      a.alphabets.unicode || b.alphabets.unicode⟩⟩

/-- The switches of the first that are off in the second. -/
def without (a b : PatternOptions) : PatternOptions :=
  ⟨a.ignoreCase && !b.ignoreCase, a.multiline && !b.multiline, a.dotAll && !b.dotAll,
    a.verbose && !b.verbose, a.template && !b.template,
    ⟨a.alphabets.ascii && !b.alphabets.ascii, a.alphabets.locale && !b.alphabets.locale,
      a.alphabets.unicode && !b.alphabets.unicode⟩⟩

/-- Whether some alphabet is chosen. -/
def choosesAlphabet (a : PatternOptions) : Bool :=
  a.alphabets.ascii || a.alphabets.locale || a.alphabets.unicode

/-- The switches inside a group that turns some on and some off: a new alphabet takes the place of
the old one. -/
def inside (outer added removed : PatternOptions) : PatternOptions :=
  let kept := if added.choosesAlphabet then { outer with alphabets := ⟨false, false, false⟩ } else outer
  (kept.union added).without removed

end PatternOptions

/-- A class of characters named by one letter. -/
inductive Category where
  | digit
  | notDigit
  | space
  | notSpace
  | word
  | notWord
  deriving DecidableEq, Inhabited

/-- A member of a bracketed set. -/
inductive SetItem where
  | point (code : Nat)
  | range (low high : Nat)
  | category (category : Category)
  deriving DecidableEq, Inhabited

/-- A condition on a place in the text. -/
inductive Anchor where
  | start
  | textStart
  | boundary
  | notBoundary
  | finish
  | textFinish
  deriving DecidableEq, Inhabited

/-- How a repetition chooses among counts: as many as possible, as few as possible, or as many as
possible without giving any back. -/
inductive RepeatMode where
  | greedy
  | lazy
  | possessive
  deriving DecidableEq, Inhabited

/-- A pattern. Code points are naturals, since an escape may name one that no text holds. -/
inductive Regex where
  | empty
  | literal (code : Nat)
  | notLiteral (code : Nat)
  | any
  | set (negated : Bool) (items : List SetItem)
  | anchor (anchor : Anchor)
  | sequence (first second : Regex)
  | either (first second : Regex)
  | repeated (least : Nat) (most : Option Nat) (mode : RepeatMode) (body : Regex)
  | capture (index : Nat) (body : Regex)
  | switched (added removed : PatternOptions) (body : Regex)
  | atomic (body : Regex)
  | ahead (negated : Bool) (body : Regex)
  | behind (negated : Bool) (width : Nat) (body : Regex)
  | back (index : Nat)
  | conditional (index : Nat) (yes no : Regex)
  deriving DecidableEq, Inhabited

/-- The least length of a match and the greatest, if there is one. -/
structure MatchWidth where
  least : Nat
  most : Option Nat
  deriving DecidableEq, Inhabited

namespace MatchWidth

/-- Nothing is read. -/
def zero : MatchWidth := ⟨0, some 0⟩

/-- One character is read. -/
def one : MatchWidth := ⟨1, some 1⟩

/-- One match after another. -/
def add (a b : MatchWidth) : MatchWidth :=
  ⟨a.least + b.least, a.most.bind fun m => b.most.map (m + ·)⟩

/-- One match or the other. -/
def join (a b : MatchWidth) : MatchWidth :=
  ⟨min a.least b.least, a.most.bind fun m => b.most.map (max m)⟩

/-- A match so many times. -/
def times (a : MatchWidth) (least : Nat) (most : Option Nat) : MatchWidth :=
  let upper :=
    match most, a.most with
    | _, some 0 => some 0
    | some n, some m => some (n * m)
    | _, _ => none
  ⟨a.least * least, upper⟩

/-- The one length that all matches have, if they have one. -/
def fixed? (a : MatchWidth) : Option Nat :=
  if a.most = some a.least then some a.least else none

end MatchWidth

/-- How long matches are, given how long those of the groups are. -/
def Regex.width (groups : Nat → MatchWidth) : Regex → MatchWidth
  | .empty => .zero
  | .literal _ => .one
  | .notLiteral _ => .one
  | .any => .one
  | .set _ _ => .one
  | .anchor _ => .zero
  | .sequence a b => (a.width groups).add (b.width groups)
  | .either a b => (a.width groups).join (b.width groups)
  | .repeated least most _ body => (body.width groups).times least most
  | .capture _ body => body.width groups
  | .switched _ _ body => body.width groups
  | .atomic body => body.width groups
  | .ahead _ _ => .zero
  | .behind _ _ _ => .zero
  | .back index => groups index
  | .conditional _ yes no => (yes.width groups).join (no.width groups)

end DataContract

/-
Grapheme clusters: what a reader takes for one character.

A text is read from the left; whether a cluster goes on depends on the class of the next character
and on what is remembered of the text before it (`GraphemeContext`): the last class, whether the
run of regional indicators ending there is odd, and whether a pictograph with its marks, and then a
joiner, stands last. The rules are those of extended clusters in the form in which the library that
counts lengths has them: it has no rule for conjuncts, by which the consonants of some scripts would
stay together across a mark that takes away the vowel between them. So `क्ष`, of three code points, is
two clusters here as it is there.

* `graphemes` — the clusters of a text, in order;
* `graphemeCount` — how many there are.
-/
import DataContract.Text.GraphemeClass

namespace DataContract

/-- How much of `pictograph, marks, joiner` stands at the end of a text. -/
inductive PictographRun where
  | none
  | open
  | joined
  deriving DecidableEq, Inhabited

/-- What the text on the left says about the next boundary. -/
structure GraphemeContext where
  last : GraphemeClass
  oddRegionals : Bool
  pictographs : PictographRun
  deriving DecidableEq, Inhabited

namespace GraphemeContext

/-- What is remembered after a first character. -/
def start (c : GraphemeClass) : GraphemeContext where
  last := c
  oddRegionals := c == .regional
  pictographs := if c = .pictographic then .open else .none

/-- What is remembered after one more character. -/
def push (g : GraphemeContext) (c : GraphemeClass) : GraphemeContext where
  last := c
  oddRegionals := c == .regional && !(g.last == .regional && g.oddRegionals)
  pictographs :=
    match c, g.pictographs with
    | .pictographic, _ => .open
    | .extend, .open => .open
    | .joiner, .open => .joined
    | _, _ => .none

/-- Whether the next character belongs to the cluster that stands last. -/
def joins (g : GraphemeContext) (next : GraphemeClass) : Bool :=
  match g.last, next with
  | .carriageReturn, .lineFeed => true
  | .carriageReturn, _ => false
  | .lineFeed, _ => false
  | .control, _ => false
  | _, .carriageReturn => false
  | _, .lineFeed => false
  | _, .control => false
  | .hangulL, .hangulL => true
  | .hangulL, .hangulV => true
  | .hangulL, .hangulLV => true
  | .hangulL, .hangulLVT => true
  | .hangulLV, .hangulV => true
  | .hangulLV, .hangulT => true
  | .hangulV, .hangulV => true
  | .hangulV, .hangulT => true
  | .hangulLVT, .hangulT => true
  | .hangulT, .hangulT => true
  | _, .extend => true
  | _, .joiner => true
  | _, .spacing => true
  | .leading, _ => true
  | .joiner, .pictographic => g.pictographs == .joined
  | .regional, .regional => g.oddRegionals
  | _, _ => false

end GraphemeContext

/-- The clusters of the rest of a text after a context, and how the cluster under way goes on. -/
def graphemesFrom : GraphemeContext → List Char → List Char × List (List Char)
  | _, [] => ([], [])
  | g, c :: rest =>
    let k := GraphemeClass.of c
    let (tail, others) := graphemesFrom (g.push k) rest
    if g.joins k then (c :: tail, others) else ([], (c :: tail) :: others)

/-- The clusters of a text, in order. -/
def graphemes : List Char → List (List Char)
  | [] => []
  | c :: rest =>
    let (tail, others) := graphemesFrom (.start (GraphemeClass.of c)) rest
    (c :: tail) :: others

/-- How many clusters a text has. -/
def graphemeCount (s : String) : Nat :=
  (graphemes s.toList).length

end DataContract

/-
Searching a text for a match of a pattern.

`Regex.run` tries the ways to match in order, each handed to a continuation that may refuse it;
the tree is the recursion, and a repetition is bounded by its least count and by the text that is
left, since a turn beyond the least count that reads nothing is the last. `Regex.search` says
whether there is a match anywhere.
-/
import DataContract.Pattern.Tree

namespace DataContract

/-- A place in the text and the stretches that the groups have captured. -/
structure MatchState where
  place : Nat
  groups : List (Nat × Nat × Nat)
  deriving Inhabited

namespace MatchState

/-- The stretch a group has captured last. -/
def group? (s : MatchState) (index : Nat) : Option (Nat × Nat) :=
  (s.groups.find? (·.1 = index)).map (·.2)

/-- Records a stretch for a group. -/
def record (s : MatchState) (index first past : Nat) : MatchState :=
  { s with groups := (index, first, past) :: s.groups.filter (·.1 ≠ index) }

end MatchState

/-- How the rest of a match goes on from a state. -/
abbrev Continuation := MatchState → Option MatchState

namespace PatternOptions

/-- Whether case is looked up in the tables of Unicode. -/
def unicodeCase (o : PatternOptions) : Bool :=
  o.alphabets.unicode

/-- A character with its case taken away as the options say. -/
def lower (o : PatternOptions) (c : Char) : Char :=
  if o.ignoreCase then if o.unicodeCase then lowerCase c else asciiLower c else c

/-- Whether a character is of a class. -/
def isDigit (o : PatternOptions) (c : Char) : Bool :=
  if o.alphabets.unicode then CodeSet.digit.contains c else '0' ≤ c && c ≤ '9'

/-- Whether a character is a blank. -/
def isSpace (o : PatternOptions) (c : Char) : Bool :=
  if o.alphabets.unicode then CodeSet.space.contains c
  else c = ' ' || (9 ≤ c.toNat && c.toNat ≤ 13)

/-- Whether a character may stand in a word. -/
def isWord (o : PatternOptions) (c : Char) : Bool :=
  if o.alphabets.unicode then CodeSet.word.contains c
  else c = '_' || ('0' ≤ c && c ≤ '9') || ('a' ≤ c && c ≤ 'z') || ('A' ≤ c && c ≤ 'Z')

end PatternOptions

/-- Whether a character is in a category. -/
def Category.accepts (o : PatternOptions) (c : Char) : Category → Bool
  | .digit => o.isDigit c
  | .notDigit => !o.isDigit c
  | .space => o.isSpace c
  | .notSpace => !o.isSpace c
  | .word => o.isWord c
  | .notWord => !o.isWord c

/-- The last code point of the basic plane. -/
def lastBasic : Nat := 0xffff

/-- The code points that a character stands for when case is ignored. -/
def PatternOptions.variants (o : PatternOptions) (c : Char) : List Nat :=
  if o.unicodeCase then
    (Case.withSiblings (lowerCase c).toNat).flatMap Case.raisedFrom
  else
    let low := (asciiLower c).toNat
    if 'a'.toNat ≤ low ∧ low ≤ 'z'.toNat then [low, low - 32] else [low]

/-- Whether a character is the one written. -/
def PatternOptions.accepts (o : PatternOptions) (code : Nat) (c : Char) : Bool :=
  if o.ignoreCase then c.toNat == code || (o.variants c).contains code else c.toNat == code

/-- Whether a character is that of a set's item. With case ignored, an item of the basic plane
holds every variant of its characters; beyond it a range holds a character by its lower or upper
case, and a single character only its own lower case. -/
def SetItem.accepts (o : PatternOptions) (c : Char) : SetItem → Bool
  | .point code =>
    if o.ignoreCase then
      if code ≤ lastBasic then o.accepts code c else (o.lower c).toNat == code
    else c.toNat == code
  | .range low high =>
    let within (n : Nat) : Bool := low ≤ n && n ≤ high
    if o.ignoreCase then
      (o.variants c).any (fun n => within n && n ≤ lastBasic) ||
        (lastBasic < high &&
          (within (lowerCase c).toNat || (Case.raisedFrom (lowerCase c).toNat).any within))
    else within c.toNat
  | .category k => k.accepts o (o.lower c)

/-- Whether a place in the text meets an anchor. -/
def Anchor.holds (o : PatternOptions) (text : Array Char) (place : Nat) : Anchor → Bool
  | .start => place = 0 || (o.multiline && text[place - 1]? == some '\n')
  | .textStart => place = 0
  | .finish =>
    place = text.size || (text[place]? == some '\n' && (o.multiline || place + 1 = text.size))
  | .textFinish => place = text.size
  | .boundary => !text.isEmpty && edge
  | .notBoundary => !text.isEmpty && !edge
where
  wordAt (n : Nat) : Bool := (text[n]?).elim false o.isWord
  edge : Bool := (place ≠ 0 && wordAt (place - 1)) != wordAt place

/-- Reads one character that a test accepts. -/
def readOne (text : Array Char) (test : Char → Bool) (s : MatchState) (k : Continuation) :
    Option MatchState :=
  match text[s.place]? with
  | some c => if test c then k { s with place := s.place + 1 } else none
  | none => none

/-- Reads the stretch from `first` to `past` again at the place, character by character. -/
def readAgain (o : PatternOptions) (text : Array Char) (first past : Nat) (place : Nat) : Bool :=
  (List.range (past - first)).all fun i =>
    match text[first + i]?, text[place + i]? with
    | some a, some b => o.lower a == o.lower b
    | _, _ => false

/-- Repeats a step the least number of times, then as `mode` says between none and `spare` more
times. A turn beyond the least count that starts where the last such turn started is not made;
`fuel` bounds the number of turns. -/
def repeatFrom (step : MatchState → Continuation → Option MatchState) (mode : RepeatMode) :
    Nat → Nat → Option Nat → Option Nat → MatchState → Continuation → Option MatchState
  | 0, _, _, _, _, _ => none
  | fuel + 1, least + 1, most, turned, s, k =>
    match mode with
    | .possessive =>
      match step s some with
      | some next => repeatFrom step mode fuel least most turned next k
      | none => none
    | _ => step s fun next => repeatFrom step mode fuel least most turned next k
  | fuel + 1, 0, spare, turned, s, k =>
    let mayTurn := spare ≠ some 0 && turned ≠ some s.place
    let turn (after : Continuation) := step s after
    let onward (next : MatchState) :=
      repeatFrom step mode fuel 0 (spare.map (· - 1)) (some s.place) next k
    match mode with
    | .greedy =>
      if mayTurn then
        match turn onward with
        | some done => some done
        | none => k s
      else k s
    | .lazy =>
      match k s with
      | some done => some done
      | none => if mayTurn then turn onward else none
    | .possessive =>
      if mayTurn then
        match turn some with
        | some next => onward next
        | none => k s
      else k s

/-- Tries the ways to match the tree at a state, in order, until the continuation accepts one. -/
def Regex.run (text : Array Char) :
    Regex → PatternOptions → MatchState → Continuation → Option MatchState
  | .empty, _, s, k => k s
  | .literal code, o, s, k => readOne text (o.accepts code) s k
  | .notLiteral code, o, s, k => readOne text (fun c => !o.accepts code c) s k
  | .any, o, s, k => readOne text (fun c => o.dotAll || c ≠ '\n') s k
  | .set negated items, o, s, k =>
    readOne text (fun c => items.any (·.accepts o c) != negated) s k
  | .anchor a, o, s, k => if a.holds o text s.place then k s else none
  | .sequence a b, o, s, k => a.run text o s fun next => b.run text o next k
  | .either a b, o, s, k =>
    match a.run text o s k with
    | some done => some done
    | none => b.run text o s k
  | .repeated least most mode body, o, s, k =>
    let fuel := least + (text.size - s.place) + 2
    repeatFrom (fun next after => body.run text o next after) mode fuel least
      (most.map (· - least)) none s k
  | .capture index body, o, s, k =>
    body.run text o s fun next => k (next.record index s.place next.place)
  | .switched added removed body, o, s, k => body.run text (o.inside added removed) s k
  | .atomic body, o, s, k =>
    match body.run text o s some with
    | some next => k next
    | none => none
  | .ahead negated body, o, s, k =>
    match body.run text o s some with
    | some next => if negated then none else k { next with place := s.place }
    | none => if negated then k s else none
  | .behind negated width body, o, s, k =>
    let found := if width ≤ s.place then body.run text o { s with place := s.place - width } some
      else none
    match found with
    | some next => if negated then none else k { next with place := s.place }
    | none => if negated then k s else none
  | .back index, o, s, k =>
    match s.group? index with
    | some (first, past) =>
      if readAgain o text first past s.place then k { s with place := s.place + (past - first) }
      else none
    | none => none
  | .conditional index yes no, o, s, k =>
    match s.group? index with
    | some _ => yes.run text o s k
    | none => no.run text o s k

/-- Whether the pattern matches at one of the places from `place` on; `left` of them follow. -/
def Regex.searchFrom (r : Regex) (o : PatternOptions) (text : Array Char) :
    Nat → Nat → Bool
  | 0, place => (r.run text o ⟨place, []⟩ some).isSome
  | left + 1, place =>
    (r.run text o ⟨place, []⟩ some).isSome || r.searchFrom o text left (place + 1)

/-- Whether the text holds a match. -/
def Regex.search (r : Regex) (o : PatternOptions) (text : String) : Bool :=
  let cs := text.toList.toArray
  r.searchFrom o cs cs.size 0

end DataContract

/-
Scalars: plain ones, ones between quotes, and blocks.

Each function takes the place where a scalar begins and gives its text and the place after it. A
single break inside a plain or quoted scalar is a blank, and of several the first is dropped.
-/
import DataContract.Yaml.Cursor
import DataContract.Text.Utf8

namespace DataContract.Yaml

/-- A scalar's part, and the place after it. -/
abbrev Scanned (α : Type) := α × Cursor

/-- How two parts of a scalar are joined where breaks are between: the first break by itself, and
those that follow. -/
def foldedBreaks (first : Char) (others : List Char) : List Char :=
  if first ≠ '\n' then first :: others
  else if others.isEmpty then [' '] else others

namespace Plain

/-- Whether a colon ends a plain scalar, by what follows it. -/
def endsAfterColon (inFlow : Bool) : Option Char → Bool
  | some c => endsWord (some c) || (inFlow && [',', '[', ']', '\x7b', '\x7d'].contains c)
  | none => true

/-- The characters up to a blank, a break, a colon that ends it, or a mark of flow collections. -/
def run (inFlow : Bool) : List Char → List Char
  | [] => []
  | c :: rest =>
    if endsWord (some c) || (c = ':' && endsAfterColon inFlow rest.head?) ||
        (inFlow && [',', '?', '[', ']', '\x7b', '\x7d'].contains c) then []
    else c :: run inFlow rest

/-- The breaks at a place, blanks between them passed over; stops before the mark of a document. -/
def breaks (p : Cursor) : Nat → List Char × Cursor × Bool
  | 0 => ([], p, false)
  | fuel + 1 =>
    match p.peek with
    | some ' ' => breaks p.next fuel
    | _ =>
      match p.lineBreak? with
      | none => ([], p, false)
      | some (b, q) =>
        if q.atDocumentMark then ([b], q, true)
        else
          let (bs, r, marked) := breaks q fuel
          (b :: bs, r, marked)

/-- What stands between two runs of a plain scalar; nothing if it ends here. -/
structure Gap where
  text : List Char
  after : Cursor
  /-- Whether a break was passed. -/
  broken : Bool

/-- The gap at a place. -/
def gap (p : Cursor) : Gap :=
  let (blanks, q) := p.takeWhile (· = ' ')
  match q.lineBreak? with
  | none => ⟨blanks, q, false⟩
  | some (first, r) =>
    if r.atDocumentMark then ⟨[], r, true⟩
    else
      let (others, after, marked) := breaks r r.rest.length
      if marked then ⟨[], after, true⟩ else ⟨foldedBreaks first others, after, true⟩

/-- A plain scalar at a place, after the gap that comes before it, and whether a break follows its
last run. -/
def scan (inFlow : Bool) (indent : Int) : Nat → List Char → Cursor → Scanned (List Char × Bool)
  | 0, _, p => (([], false), p)
  | fuel + 1, before, p =>
    let word := if p.peek = some '#' then [] else run inFlow p.rest
    if word.isEmpty then (([], false), p)
    else
      let g := gap (p.forward word.length)
      if g.text.isEmpty || g.after.peek = some '#' || (!inFlow && (g.after.column : Int) < indent) then
        ((before ++ word, g.broken), g.after)
      else
        let ((more, broken), after) := scan inFlow indent fuel g.text g.after
        ((before ++ word ++ more, if more.isEmpty then g.broken else broken), after)

end Plain

namespace Quoted

/-- The character that an escape of one letter stands for. -/
def simpleEscape? : Char → Option Char
  | '0' => some '\x00'
  | 'a' => some '\x07'
  | 'b' => some '\x08'
  | 't' => some '\t'
  | '\t' => some '\t'
  | 'n' => some '\n'
  | 'v' => some '\x0b'
  | 'f' => some '\x0c'
  | 'r' => some '\r'
  | 'e' => some '\x1b'
  | ' ' => some ' '
  | '"' => some '"'
  | '\\' => some '\\'
  | '/' => some '/'
  | 'N' => some '\x85'
  | '_' => some '\xa0'
  | 'L' => some '\u2028'
  | 'P' => some '\u2029'
  | _ => none

/-- How many digits follow the letter of an escape by number. -/
def escapeDigits? : Char → Option Nat
  | 'x' => some 2
  | 'u' => some 4
  | 'U' => some 8
  | _ => none

/-- The character with a number; one that is half of a pair is replaced. -/
def charOf (n : Nat) : Except YamlFault Char :=
  if n ≥ 0x110000 then .error .notCharacter
  else .ok (if n.isValidChar then Char.ofNat n else '\ufffd')

/-- The breaks at a place, blanks and tabs between them passed over. -/
def breaks (p : Cursor) : Nat → Except YamlFault (Scanned (List Char))
  | 0 => .ok ([], p)
  | fuel + 1 =>
    if p.atDocumentMark then .error .malformed
    else
      let q := (p.takeWhile isBlank).2
      match q.lineBreak? with
      | none => .ok ([], q)
      | some (b, after) => do
        let (bs, r) ← breaks after fuel
        return (b :: bs, r)

/-- What an escape at a place stands for; the backslash is behind it. -/
def escape (p : Cursor) : Except YamlFault (Scanned (List Char)) :=
  match p.peek with
  | none => .error .malformed
  | some c =>
    match simpleEscape? c, escapeDigits? c with
    | some r, _ => .ok ([r], p.next)
    | none, some count =>
      let ds := p.next.rest.take count
      if ds.length = count && ds.all isHexDigit then do
        let r ← charOf (digitsValue 16 digitOf ds)
        return ([r], p.forward (count + 1))
      else .error .malformed
    | none, none =>
      if isBreak c then breaks p.skipBreak p.rest.length else .error .malformed

/-- Blanks and breaks inside a quoted scalar. -/
def space (p : Cursor) : Except YamlFault (Scanned (List Char)) :=
  let (blanks, q) := p.takeWhile isBlank
  match q.peek, q.lineBreak? with
  | none, _ => .error .malformed
  | some _, none => .ok (blanks, q)
  | some _, some (first, r) => do
    let (others, after) ← breaks r r.rest.length
    return (foldedBreaks first others, after)

/-- The text of a quoted scalar from a place on, and the place after its closing quote. -/
def body (double : Bool) : Nat → Cursor → Except YamlFault (Scanned (List Char))
  | 0, _ => .error .malformed
  | fuel + 1, p =>
    match p.rest with
    | [] => .error .malformed
    | c :: rest =>
      if c = '"' && double then .ok ([], p.next)
      else if c = '\'' && !double then
        if rest.head? = some '\'' then do
          let (more, after) ← body double fuel (p.forward 2)
          return ('\'' :: more, after)
        else .ok ([], p.next)
      else if c = '\\' && double then do
        let (part, q) ← escape p.next
        let (more, after) ← body double fuel q
        return (part ++ more, after)
      else if isBlank c || isBreak c then do
        let (part, q) ← space p
        let (more, after) ← body double fuel q
        return (part ++ more, after)
      else do
        let (more, after) ← body double fuel p.next
        return (c :: more, after)

/-- A quoted scalar at its opening quote. -/
def scan (double : Bool) (p : Cursor) : Except YamlFault (Scanned (List Char)) :=
  body double (p.rest.length + 1) p.next

end Quoted

namespace Block

/-- What is done with the breaks at the end of a block. -/
inductive Chomping where
  | strip
  | clip
  | keep
  deriving DecidableEq, Inhabited

/-- The header of a block: what becomes of its last breaks, and by how much it is indented. -/
structure Header where
  chomping : Chomping
  increment : Option Nat

/-- The chomping that a sign asks for. -/
def chomping? : Option Char → Option Chomping
  | some '+' => some .keep
  | some '-' => some .strip
  | _ => none

/-- The digit at a place. -/
def digit? : Option Char → Option Nat
  | some c => if isAsciiDigit c then some (digitOf c) else none
  | none => none

/-- The header at a place: a sign and a digit in either order. -/
def header (p : Cursor) : Except YamlFault (Scanned Header) :=
  let sign := chomping? p.peek
  let q := if sign.isSome then p.next else p
  let number := digit? q.peek
  let r := if number.isSome then q.next else q
  let late := if sign.isNone && number.isSome then chomping? r.peek else none
  let after := if late.isSome then r.next else r
  if number = some 0 then .error .malformed
  else if !endsPart after.peek then .error .malformed
  else .ok (⟨(sign.or late).getD .clip, number⟩, after)

/-- The end of the header's line. -/
def headerEnd (p : Cursor) : Except YamlFault Cursor :=
  let q := p.skipBlanks.skipComment
  if endsLine q.peek then .ok q.skipBreak else .error .malformed

/-- The breaks before the first line with text, the deepest column reached, and the place after. -/
def leading (p : Cursor) : Nat → List Char × Nat × Cursor
  | 0 => ([], 0, p)
  | fuel + 1 =>
    if p.peek = some ' ' then
      let (bs, deepest, after) := leading p.next fuel
      (bs, max deepest p.next.column, after)
    else
      match p.lineBreak? with
      | none => ([], 0, p)
      | some (b, q) =>
        let (bs, deepest, after) := leading q fuel
        (b :: bs, deepest, after)

/-- The place after the blanks up to a column. -/
def skipIndent (indent : Nat) (p : Cursor) : Cursor :=
  p.forward ((p.rest.takeWhile (· = ' ')).length.min (indent - p.column))

/-- The breaks before the next line that is indented as the block is. -/
def breaks (indent : Nat) (p : Cursor) : Nat → List Char × Cursor
  | 0 => ([], p)
  | fuel + 1 =>
    let q := skipIndent indent p
    match q.lineBreak? with
    | none => ([], q)
    | some (b, r) =>
      let (bs, after) := breaks indent r fuel
      (b :: bs, after)

/-- Whether another line of the block begins at a place. -/
def goesOn (indent : Nat) (p : Cursor) : Bool :=
  p.column == indent && p.peek.isSome

/-- Whether the text at a place begins with a blank or tab. -/
def atBlank (p : Cursor) : Bool :=
  (p.peek.map isBlank).getD false

/-- The lines of a block from a place on, after the breaks that come before it. -/
def lines (folded : Bool) (chomping : Chomping) (indent : Nat) :
    Nat → List Char → Cursor → Scanned (List Char)
  | 0, _, p => ([], p)
  | fuel + 1, before, p =>
    let (text, q) := p.takeWhile fun c => !isBreak c
    let lineBreak := q.lineBreak?
    let r := q.skipBreak
    let (bs, after) := breaks indent r r.rest.length
    let ending := (lineBreak.map (·.1)).toList
    if goesOn indent after then
      let joined :=
        if folded && ending == ['\n'] && !atBlank p && !atBlank after then
          if bs.isEmpty then [' '] else []
        else ending
      let (more, last) := lines folded chomping indent fuel bs after
      (before ++ text ++ joined ++ more, last)
    else
      let tail := match chomping with
        | .strip => []
        | .clip => ending
        | .keep => ending ++ bs
      (before ++ text ++ tail, after)

/-- A block scalar at its mark; `parent` is the indentation of what it belongs to. -/
def scan (folded : Bool) (parent : Int) (p : Cursor) : Except YamlFault (Scanned (List Char)) := do
  let (h, q) ← header p.next
  let r ← headerEnd q
  let least := (parent + 1).toNat.max 1
  let (bs, indent, start) :=
    match h.increment with
    | none =>
      let (bs, deepest, start) := leading r r.rest.length
      (bs, least.max deepest, start)
    | some n =>
      let indent := least + n - 1
      let (bs, start) := breaks indent r r.rest.length
      (bs, indent, start)
  if goesOn indent start then
    return lines folded h.chomping indent (start.rest.length + 1) bs start
  else
    return (if h.chomping = .keep then bs else [], start)

end Block

end DataContract.Yaml

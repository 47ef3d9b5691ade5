/-
From YAML texts to tokens.

The lexer knows how deep flow collections and indentation go, and which tokens may still turn out to
be simple keys: a key is one only if a colon follows on its line, and then the mark for it goes in
front of its token. `Token.ofText` gives all tokens of a text.
-/
import DataContract.Yaml.Token
import DataContract.Yaml.Token.Scalar

namespace DataContract.Yaml

/-- A token that may turn out to be a simple key: how many tokens come before it, where it begins,
and whether nothing else than a key can stand there. -/
structure SimpleKey where
  number : Nat
  required : Bool
  index : Nat
  line : Nat
  column : Nat

/-- The state of the lexer; the latest token comes first. -/
structure Lexer where
  cursor : Cursor
  tokens : List Token
  flowLevel : Nat
  /-- The column of the innermost block collection, `-1` outside all. -/
  indent : Int
  outerIndents : List Int
  /-- Whether a simple key may begin at the place. -/
  keyAllowed : Bool
  /-- The candidates for simple keys by the level of flow collections they are in. -/
  candidates : List (Nat × SimpleKey)

/-- Characters of names of anchors, directives and tag handles. -/
def isNameChar (c : Char) : Bool :=
  c.isAlphanum || c = '-' || c = '_'

/-- Characters of tags. -/
def isTagChar (c : Char) : Bool :=
  c.isAlphanum || [';', '/', '?', ':', '@', '&', '=', '+', '$', ',', '_', '.', '!', '~', '*', '\'',
    '(', ')', '[', ']', '%', '-'].contains c

namespace Tag

/-- Bytes given by number, at a place. -/
def escapedBytes : Nat → Cursor → Except YamlFault (Scanned (List UInt8))
  | 0, p => .ok ([], p)
  | fuel + 1, p =>
    match p.rest with
    | '%' :: a :: b :: _ =>
      if isHexDigit a && isHexDigit b then do
        let (bs, q) ← escapedBytes fuel (p.forward 3)
        return (UInt8.ofNat (digitsValue 16 digitOf [a, b]) :: bs, q)
      else .error .malformed
    | '%' :: _ => .error .malformed
    | _ => .ok ([], p)

/-- The rest of a tag. -/
def suffix : Nat → Cursor → Except YamlFault (Scanned (List Char))
  | 0, p => .ok ([], p)
  | fuel + 1, p =>
    match p.peek with
    | some '%' => do
      let (bs, q) ← escapedBytes (fuel + 1) p
      match Utf8.decode bs with
      | .error _ => .error .malformed
      | .ok s => do
        let (more, r) ← suffix fuel q
        return (s.toList ++ more, r)
    | some c =>
      if isTagChar c then do
        let (more, r) ← suffix fuel p.next
        return (c :: more, r)
      else .ok ([], p)
    | none => .ok ([], p)

/-- The rest of a tag, which is not empty. -/
def uri (p : Cursor) : Except YamlFault (Scanned String) := do
  let (cs, q) ← suffix p.rest.length p
  if cs.isEmpty && q.index == p.index then .error .malformed
  else return (String.ofList cs, q)

/-- A handle: an exclamation mark, or a name between two. -/
def handle (p : Cursor) : Except YamlFault (Scanned String) :=
  match p.rest with
  | '!' :: rest =>
    let name := rest.takeWhile isNameChar
    match rest.drop name.length with
    | '!' :: _ => .ok (String.ofList ('!' :: (name ++ ['!'])), p.forward (name.length + 2))
    | c :: _ => if c = ' ' && name.isEmpty then .ok ("!", p.next) else .error .malformed
    | [] => .error .malformed
  | _ => .error .malformed

/-- Whether an exclamation mark follows before the end of the word. -/
def hasHandle (cs : List Char) : Bool :=
  (cs.takeWhile fun c => !endsPart (some c)).contains '!'

/-- A tag at its exclamation mark. -/
def scan (p : Cursor) : Except YamlFault (Scanned Token) := do
  let after := p.next
  let (token, q) ←
    match after.rest with
    | '<' :: _ => do
      let (s, q) ← uri after.next
      if q.peek = some '>' then pure (Token.tag none s, q.next) else .error .malformed
    | cs =>
      if endsWord cs.head? then pure (Token.tag none "!", after)
      else do
        let (h, q) ← if hasHandle cs then handle p else pure ("!", after)
        let (s, r) ← uri q
        pure (Token.tag (some h) s, r)
  if endsPart q.peek then return (token, q) else .error .malformed

end Tag

namespace Directive

/-- A number. -/
def number (p : Cursor) : Except YamlFault (Scanned Nat) :=
  let (ds, q) := p.takeWhile isAsciiDigit
  if ds.isEmpty then .error .malformed else .ok (decimalValue ds, q)

/-- The version after its name. -/
def scanVersion (p : Cursor) : Except YamlFault (Scanned Directive) := do
  let (major, q) ← number p.skipBlanks
  if q.peek ≠ some '.' then .error .malformed
  else
    let (_, r) ← number q.next
    if endsPart r.peek then return (.version major, r) else .error .malformed

/-- A handle and what it stands for. -/
def scanTagHandle (p : Cursor) : Except YamlFault (Scanned Directive) := do
  let (h, q) ← Tag.handle p.skipBlanks
  if q.peek ≠ some ' ' then .error .malformed
  else
    let (expansion, r) ← Tag.uri q.skipBlanks
    if endsPart r.peek then return (.tagHandle h expansion, r) else .error .malformed

/-- A directive at its percent sign, with the whole of its line. -/
def scan (p : Cursor) : Except YamlFault (Scanned Directive) := do
  let (name, q) := p.next.takeWhile isNameChar
  if name.isEmpty || !endsPart q.peek then .error .malformed
  else
    let (d, r) ←
      if name = "YAML".toList then scanVersion q
      else if name = "TAG".toList then scanTagHandle q
      else pure (Directive.other, (q.takeWhile fun c => !isBreak c).2)
    let s := r.skipBlanks.skipComment
    if endsLine s.peek then return (d, s.skipBreak) else .error .malformed

end Directive

/-- The name of an anchor or alias after its mark. -/
def anchorName (p : Cursor) : Except YamlFault (Scanned String) :=
  let (name, q) := p.takeWhile isNameChar
  let ends := match q.peek with
    | some c => endsWord (some c) || ['?', ':', ',', ']', '\x7d', '%', '@', '`'].contains c
    | none => true
  if name.isEmpty || !ends then .error .malformed else .ok (String.ofList name, q)

namespace Lexer

/-- The lexer before a text. -/
def start (cs : List Char) : Lexer :=
  ⟨Cursor.start cs, [], 0, -1, [], true, []⟩

/-- Whether the place is inside a flow collection. -/
def inFlow (l : Lexer) : Bool :=
  l.flowLevel ≠ 0

/-- Adds a token and moves on. -/
def push (l : Lexer) (t : Token) (after : Cursor) : Lexer :=
  { l with tokens := t :: l.tokens, cursor := after }

/-- Puts a token before the one with so many before it. -/
def insertAt (l : Lexer) (number : Nat) (t : Token) : Lexer :=
  let later := l.tokens.length - number
  { l with tokens := l.tokens.take later ++ t :: l.tokens.drop later }

/-- Drops the candidates that can no longer be keys; one that had to be a key is a fault. -/
def dropStale (l : Lexer) : Except YamlFault Lexer :=
  let fresh (k : SimpleKey) : Bool :=
    k.line == l.cursor.line && l.cursor.index - k.index ≤ 1024
  if l.candidates.any fun (_, k) => !fresh k && k.required then .error .malformed
  else .ok { l with candidates := l.candidates.filter fun (_, k) => fresh k }

/-- Drops the candidate of the present level; one that had to be a key is a fault. -/
def dropCandidate (l : Lexer) : Except YamlFault Lexer :=
  if l.candidates.any fun (level, k) => level == l.flowLevel && k.required then .error .malformed
  else .ok { l with candidates := l.candidates.filter fun (level, _) => level ≠ l.flowLevel }

/-- Makes the token that comes next a candidate. -/
def addCandidate (l : Lexer) : Except YamlFault Lexer :=
  if !l.keyAllowed then .ok l
  else do
    let required := !l.inFlow && l.indent = l.cursor.column
    let m ← l.dropCandidate
    let k : SimpleKey :=
      ⟨m.tokens.length, required, m.cursor.index, m.cursor.line, m.cursor.column⟩
    return { m with candidates := (m.flowLevel, k) :: m.candidates }

/-- Ends the block collections that begin to the right of a column; `outer` are those around. -/
def unwindTo (column : Int) (l : Lexer) : List Int → Lexer
  | [] => { l with outerIndents := [] }
  | i :: outer =>
    if column < l.indent then
      unwindTo column { l with tokens := .blockEnd :: l.tokens, indent := i } outer
    else { l with outerIndents := i :: outer }

/-- The same, but in flow collections, where columns mean nothing. -/
def unwind (column : Int) (l : Lexer) : Lexer :=
  if l.inFlow then l else unwindTo column l l.outerIndents

/-- Whether a block collection that begins at the column is a new one. -/
def isDeeper (l : Lexer) (column : Nat) : Bool :=
  l.indent < column

/-- Enters a block collection at the column. -/
def indentTo (l : Lexer) (column : Nat) : Lexer :=
  { l with outerIndents := l.indent :: l.outerIndents, indent := column }

/-- Begins a block collection at the place, if a deeper one begins there. -/
def openBlock (l : Lexer) (t : Token) : Lexer :=
  if l.isDeeper l.cursor.column then (l.indentTo l.cursor.column).push t l.cursor else l

/-- The mark that begins or ends a document. -/
def documentMark (t : Token) (l : Lexer) : Except YamlFault Lexer := do
  let m ← (l.unwind (-1)).dropCandidate
  return { m.push t (m.cursor.forward 3) with keyAllowed := false }

/-- The bracket or brace that begins a flow collection. -/
def openFlow (t : Token) (l : Lexer) : Except YamlFault Lexer := do
  let m ← l.addCandidate
  return { m.push t m.cursor.next with flowLevel := m.flowLevel + 1, keyAllowed := true }

/-- The bracket or brace that ends a flow collection. -/
def closeFlow (t : Token) (l : Lexer) : Except YamlFault Lexer := do
  if l.flowLevel = 0 then .error .malformed
  else
    let m ← l.dropCandidate
    return { m.push t m.cursor.next with flowLevel := m.flowLevel - 1, keyAllowed := false }

/-- The comma of a flow collection. -/
def flowEntry (l : Lexer) : Except YamlFault Lexer := do
  let m ← l.dropCandidate
  return { m.push .flowEntry m.cursor.next with keyAllowed := true }

/-- The dash of an item of a block sequence. -/
def blockEntry (l : Lexer) : Except YamlFault Lexer := do
  if !l.inFlow && !l.keyAllowed then .error .malformed
  else
    let m ← (if l.inFlow then l else l.openBlock .blockSequenceStart).dropCandidate
    return { m.push .blockEntry m.cursor.next with keyAllowed := true }

/-- The question mark before a key. -/
def explicitKey (l : Lexer) : Except YamlFault Lexer := do
  if !l.inFlow && !l.keyAllowed then .error .malformed
  else
    let m ← (if l.inFlow then l else l.openBlock .blockMappingStart).dropCandidate
    return { m.push .key m.cursor.next with keyAllowed := !m.inFlow }

/-- The colon before a value: it makes a key of the candidate before it, if there is one. -/
def colon (l : Lexer) : Except YamlFault Lexer :=
  match l.candidates.find? fun (level, _) => level == l.flowLevel with
  | some (_, k) =>
    let m := { l with
      candidates := l.candidates.filter fun (level, _) => level ≠ l.flowLevel
      keyAllowed := false }
    let m := m.insertAt k.number .key
    let m :=
      if !m.inFlow && m.isDeeper k.column then
        (m.indentTo k.column).insertAt k.number .blockMappingStart
      else m
    .ok (m.push .value m.cursor.next)
  | none =>
    if !l.inFlow && !l.keyAllowed then .error .malformed
    else do
      let m ← (if l.inFlow then l else l.openBlock .blockMappingStart).dropCandidate
      return { m.push .value m.cursor.next with keyAllowed := !m.inFlow }

/-- A token that may be a key, or stand before one. -/
def keyLike (l : Lexer) (scan : Cursor → Except YamlFault (Scanned Token)) :
    Except YamlFault Lexer := do
  let m ← l.addCandidate
  let (t, after) ← scan m.cursor
  return { m.push t after with keyAllowed := false }

/-- A name after a mark, as a token. -/
def named (make : String → Token) (p : Cursor) : Except YamlFault (Scanned Token) := do
  let (name, after) ← anchorName p.next
  return (make name, after)

/-- A quoted scalar as a token. -/
def quoted (double : Bool) (p : Cursor) : Except YamlFault (Scanned Token) := do
  let (cs, after) ← Quoted.scan double p
  return (.scalar (String.ofList cs) false, after)

/-- A block scalar. -/
def block (folded : Bool) (l : Lexer) : Except YamlFault Lexer := do
  let m ← l.dropCandidate
  let (cs, after) ← Block.scan folded m.indent m.cursor
  return { m.push (.scalar (String.ofList cs) false) after with keyAllowed := true }

/-- A plain scalar. -/
def plain (l : Lexer) : Except YamlFault Lexer := do
  let m ← l.addCandidate
  let ((cs, broken), after) :=
    Plain.scan m.inFlow (m.indent + 1) (m.cursor.rest.length + 1) [] m.cursor
  return { m.push (.scalar (String.ofList cs) true) after with keyAllowed := broken }

/-- Whether a plain scalar may begin with a character that another follows. -/
def beginsPlain (inFlow : Bool) (c : Char) (following : Option Char) : Bool :=
  let special := ['-', '?', ':', ',', '[', ']', '\x7b', '\x7d', '#', '&', '*', '!', '|', '>', '\'',
    '"', '%', '@', '`']
  !(endsWord (some c) || special.contains c) ||
    (!endsWord following && (c = '-' || (!inFlow && (c = '?' || c = ':'))))

/-- The token that begins with a character. -/
def token (l : Lexer) (c : Char) (following : Option Char) : Except YamlFault Lexer :=
  if c = '%' && l.cursor.column = 0 then do
    let m ← (l.unwind (-1)).dropCandidate
    let (d, after) ← Directive.scan m.cursor
    return { m.push (.directive d) after with keyAllowed := false }
  else if l.cursor.column = 0 && l.cursor.atDocumentMark then
    documentMark (if c = '-' then .documentStart else .documentEnd) l
  else if c = '[' then openFlow .flowSequenceStart l
  else if c = '\x7b' then openFlow .flowMappingStart l
  else if c = ']' then closeFlow .flowSequenceEnd l
  else if c = '\x7d' then closeFlow .flowMappingEnd l
  else if c = ',' then flowEntry l
  else if c = '-' && endsWord following then blockEntry l
  else if c = '?' && (l.inFlow || endsWord following) then explicitKey l
  else if c = ':' && (l.inFlow || endsWord following) then colon l
  else if c = '*' then keyLike l (named .alias)
  else if c = '&' then keyLike l (named .anchor)
  else if c = '!' then keyLike l Tag.scan
  else if c = '|' && !l.inFlow then block false l
  else if c = '>' && !l.inFlow then block true l
  else if c = '\'' then keyLike l (quoted false)
  else if c = '"' then keyLike l (quoted true)
  else if beginsPlain l.inFlow c following then plain l
  else .error .malformed

/-- The end of the text. -/
def finish (l : Lexer) : Except YamlFault Lexer :=
  (l.unwind (-1)).dropCandidate

/-- All tokens from the place on. -/
def run : Nat → Lexer → Except YamlFault Lexer
  | 0, l => .ok l
  | fuel + 1, l => do
    let (p, broken) := l.cursor.toNextToken (l.cursor.rest.length + 1)
    let l := { l with cursor := p, keyAllowed := l.keyAllowed || (broken && !l.inFlow) }
    let l ← l.dropStale
    let l := l.unwind p.column
    match p.rest with
    | [] => finish l
    | c :: rest =>
      let l ← token l c rest.head?
      run fuel l

end Lexer

/-- The tokens of a text. A byte order mark at its beginning is no part of it. -/
def Token.ofText (cs : List Char) : Except YamlFault (List Token) := do
  if !cs.all isAllowed then .error .malformed
  else
    let body := if cs.head? = some '\ufeff' then cs.drop 1 else cs
    let l ← (Lexer.start body).run (cs.length + 1)
    return l.tokens.reverse

end DataContract.Yaml

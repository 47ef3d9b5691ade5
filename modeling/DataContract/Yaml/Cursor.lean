/-
A place in a YAML text, and the characters that end words and lines.

A line ends with a line feed, a carriage return or both, with a next-line character, or with a line
or paragraph separator; the last two stand for themselves, all others for a line feed.
-/
import DataContract.Calendar

namespace DataContract

/-- Why a YAML text has no value. -/
inductive YamlFault where
  /-- The text is no YAML, or holds a tag or key that nothing is known about. -/
  | malformed
  /-- An escape gives a number that is no character's. -/
  | notCharacter
  /-- There is no such date or time. -/
  | calendar (fault : CalendarFault)
  | notTimestamp
  | notInteger (base : Nat) (text : String)
  | tooManyDigits (count : Nat)
  | notNumber (text : String)
  | emptyNumber
  | notTruth (word : String)
  deriving DecidableEq, Inhabited

namespace Yaml

/-- Whether a character ends a line. -/
def isBreak (c : Char) : Bool :=
  c = '\n' || c = '\r' || c = '\x85' || c = '\u2028' || c = '\u2029'

/-- Whether a character is a blank or a tab. -/
def isBlank (c : Char) : Bool :=
  c = ' ' || c = '\t'

/-- Whether nothing follows on the line. -/
def endsLine : Option Char → Bool
  | none => true
  | some c => isBreak c

/-- Whether what follows is a blank, or nothing on the line. -/
def endsPart : Option Char → Bool
  | some ' ' => true
  | c => endsLine c

/-- Whether what follows is a blank or a tab, or nothing on the line. -/
def endsWord : Option Char → Bool
  | some '\t' => true
  | c => endsPart c

/-- Whether a character may stand in a text, if only inside quotes. -/
def isAllowed (c : Char) : Bool :=
  let n := c.toNat
  n = 0x9 || n = 0xa || n = 0xd || (0x20 ≤ n && n ≤ 0x7e) || n = 0x85 || (0xa0 ≤ n && n ≤ 0xfffd) ||
    0x10000 ≤ n

/-- A place in a text: what is left of it, and how many characters, lines and columns precede. -/
structure Cursor where
  rest : List Char
  index : Nat
  line : Nat
  column : Nat

namespace Cursor

/-- The start of a text. -/
def start (cs : List Char) : Cursor :=
  ⟨cs, 0, 0, 0⟩

/-- The next character. -/
def peek (p : Cursor) : Option Char :=
  p.rest.head?

/-- The place after the next character. -/
def next (p : Cursor) : Cursor :=
  match p.rest with
  | [] => p
  | c :: rest =>
    if isBreak c && !(c = '\r' && rest.head? = some '\n') then ⟨rest, p.index + 1, p.line + 1, 0⟩
    else if c = '\ufeff' then ⟨rest, p.index + 1, p.line, p.column⟩
    else ⟨rest, p.index + 1, p.line, p.column + 1⟩

/-- The place after so many characters. -/
def forward (p : Cursor) : Nat → Cursor
  | 0 => p
  | n + 1 => p.next.forward n

/-- The characters that pass a test, and the place after them. -/
def takeWhile (p : Cursor) (test : Char → Bool) : List Char × Cursor :=
  let cs := p.rest.takeWhile test
  (cs, p.forward cs.length)

/-- The place after the blanks. -/
def skipBlanks (p : Cursor) : Cursor :=
  (p.takeWhile (· = ' ')).2

/-- The place after the rest of the line, the break itself apart, if it is a comment. -/
def skipComment (p : Cursor) : Cursor :=
  if p.peek = some '#' then (p.takeWhile fun c => !isBreak c).2 else p

/-- The break at the place, what it stands for, and the place after it. -/
def lineBreak? (p : Cursor) : Option (Char × Cursor) :=
  match p.rest with
  | '\r' :: '\n' :: _ => some ('\n', p.forward 2)
  | c :: _ =>
    if !isBreak c then none
    else some (if c = '\u2028' ∨ c = '\u2029' then c else '\n', p.next)
  | [] => none

/-- The place after a break, if there is one. -/
def skipBreak (p : Cursor) : Cursor :=
  (p.lineBreak?.map (·.2)).getD p

/-- Whether the three characters at the place mark the bounds of a document. -/
def atDocumentMark (p : Cursor) : Bool :=
  match p.rest with
  | a :: b :: c :: rest =>
    ((a = '-' && b = '-' && c = '-') || (a = '.' && b = '.' && c = '.')) && endsWord rest.head?
  | _ => false

/-- Skips blanks, comments and breaks before a token; says whether a break was among them. -/
def toNextToken (p : Cursor) : Nat → Cursor × Bool
  | 0 => (p, false)
  | fuel + 1 =>
    let q := p.skipBlanks.skipComment
    match q.lineBreak? with
    | none => (q, false)
    | some (_, after) => ((after.toNextToken fuel).1, true)

end Cursor

end Yaml

end DataContract

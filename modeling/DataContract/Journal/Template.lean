/-
Message templates: texts with directives that arguments are put in place of.

A directive begins with `%` and ends with a letter that says what is written; two `%` in a row
stand for one. In between it may name a key, when the arguments are a map, and ask for flags, a
width and a precision, each given in digits or by an argument.

`Template.read` takes a template apart. It never fails: a directive that breaks off or ends with an
unknown letter is refused only when it is reached, after those before it are written.
-/
import DataContract.Number.Text

namespace DataContract.Template

/-- A width or precision: absent, given in digits, or taken from the arguments. -/
inductive Extent where
  | absent
  | given (n : Nat)
  | argument
  deriving DecidableEq, Inhabited

/-- What may be asked for with a character each. -/
structure Flags where
  /-- Padding goes to the right. -/
  left : Bool
  /-- A number that is not negative has a plus sign. -/
  plus : Bool
  /-- A number that is not negative has a blank for its sign. -/
  blank : Bool
  /-- The base of a number is marked, and a point is kept. -/
  marked : Bool
  /-- A number is padded with zeros behind its sign. -/
  zeros : Bool
  deriving DecidableEq, Inhabited

/-- The key of a directive. -/
inductive Key where
  | absent
  | named (key : String)
  /-- The bracket after `%` is not closed. -/
  | unclosed
  deriving DecidableEq, Inhabited

/-- How a directive ends: with a letter and the index it stands at, or not at all. -/
inductive Ending where
  | letter (c : Char) (index : Nat)
  | missing
  deriving DecidableEq, Inhabited

/-- A directive. -/
structure Directive where
  key : Key
  flags : Flags
  width : Extent
  precision : Extent
  ending : Ending
  deriving DecidableEq, Inhabited

/-- A part of a template: a character that stands for itself, or a directive. -/
inductive Piece where
  | literal (c : Char)
  | directive (d : Directive)
  deriving DecidableEq, Inhabited

/-- What stands before the bracket that closes so many open ones, and what follows it. -/
def closing : Nat → List Char → Option (List Char × List Char)
  | _, [] => none
  | 0, ')' :: rest => some ([], rest)
  | depth + 1, ')' :: rest => (closing depth rest).map fun (key, after) => (')' :: key, after)
  | depth, c :: rest =>
    (closing (if c = '(' then depth + 1 else depth) rest).map fun (key, after) => (c :: key, after)

/-- The key after `%`, and what follows it. -/
def readKey : List Char → Key × List Char
  | '(' :: rest =>
    match closing 0 rest with
    | some (key, after) => (.named (String.ofList key), after)
    | none => (.unclosed, [])
  | cs => (.absent, cs)

/-- Whether a character is a flag. -/
def isFlag (c : Char) : Bool :=
  c = '-' || c = '+' || c = ' ' || c = '#' || c = '0'

/-- The flags that characters ask for. -/
def flagsOf (cs : List Char) : Flags :=
  ⟨cs.contains '-', cs.contains '+', cs.contains ' ', cs.contains '#', cs.contains '0'⟩

/-- A width, and what follows it. -/
def readWidth : List Char → Extent × List Char
  | '*' :: rest => (.argument, rest)
  | cs =>
    let digits := cs.takeWhile isAsciiDigit
    (if digits.isEmpty then .absent else .given (decimalValue digits), cs.dropWhile isAsciiDigit)

/-- A precision, and what follows it; a point alone asks for none at all. -/
def readPrecision : List Char → Extent × List Char
  | '.' :: rest =>
    match readWidth rest with
    | (.absent, after) => (.given 0, after)
    | found => found
  | cs => (.absent, cs)

/-- What follows a mark of size, which says nothing. -/
def skipSize : List Char → List Char
  | c :: rest => if c = 'h' ∨ c = 'l' ∨ c = 'L' then rest else c :: rest
  | [] => []

/-- The directive after `%` in a template of so many characters, and what follows it. -/
def readDirective (size : Nat) (cs : List Char) : Directive × List Char :=
  let (key, cs) := readKey cs
  let flags := flagsOf (cs.takeWhile isFlag)
  let (width, cs) := readWidth (cs.dropWhile isFlag)
  let (precision, cs) := readPrecision cs
  match skipSize cs with
  | c :: rest => (⟨key, flags, width, precision, .letter c (size - rest.length - 1)⟩, rest)
  | [] => (⟨key, flags, width, precision, .missing⟩, [])

/-- The parts of what is left of a template of so many characters; each takes at least one of them,
so that their number bounds the parts. -/
def piecesFrom (size : Nat) : Nat → List Char → List Piece
  | 0, _ => []
  | _, [] => []
  | fuel + 1, '%' :: '%' :: rest => .literal '%' :: piecesFrom size fuel rest
  | fuel + 1, '%' :: rest =>
    let (d, after) := readDirective size rest
    .directive d :: piecesFrom size fuel after
  | fuel + 1, c :: rest => .literal c :: piecesFrom size fuel rest

/-- The parts of a template. -/
def read (template : String) : List Piece :=
  let cs := template.toList
  piecesFrom cs.length cs.length cs

end DataContract.Template

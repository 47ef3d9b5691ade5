/-
Patterns as contracts hold them: the text they were read from, their options and their tree.

`Pattern.read?` makes one of a text or of bytes, `Pattern.search` looks for a match in a text, which
a pattern of bytes refuses to do.
-/
import DataContract.Pattern.Reader
import DataContract.Pattern.Search

namespace DataContract

/-- What a pattern was read from. -/
inductive PatternSource where
  | text (s : String)
  | bytes (b : List UInt8)
  deriving DecidableEq, Inhabited

namespace PatternSource

/-- The characters that are read; a byte counts as the character of its number. -/
def chars : PatternSource → List Char
  | .text s => s.toList
  | .bytes b => b.map fun n => Char.ofNat n.toNat

/-- Whether it is a text. -/
def isText : PatternSource → Bool
  | .text _ => true
  | .bytes _ => false

end PatternSource

/-- A pattern that has been read. -/
structure Pattern where
  source : PatternSource
  options : PatternOptions
  tree : Regex
  deriving DecidableEq, Inhabited

/-- A pattern of bytes was asked to search a text. -/
inductive BytesPattern where
  | mk
  deriving DecidableEq, Inhabited

/-- What a pattern of bytes answers to a text. -/
def BytesPattern.message : String :=
  "cannot use a bytes pattern on a string-like object"

namespace Pattern

/-- Reads a pattern under given options. -/
def read? (source : PatternSource) (given : PatternOptions) : Except PatternFault Pattern :=
  match Regex.read? source.isText given source.chars with
  | .ok (tree, options) => .ok ⟨source, options, tree⟩
  | .error fault => .error fault

/-- Whether the text holds a match. -/
def search (p : Pattern) (text : String) : Except BytesPattern Bool :=
  match p.source with
  | .text _ => .ok (p.tree.search p.options text)
  | .bytes _ => .error .mk

end Pattern

end DataContract

/-
Tags: what kind of value a node writes.

A plain scalar without a tag is of the first kind whose form it has: a truth value, a double, an
integer, the mark for merging, null, a timestamp or the mark for a value; else it is a text.
-/
import DataContract.Yaml.Timestamp

namespace DataContract.Yaml

/-- The kinds of node that have a meaning. -/
inductive Tag where
  | null
  | bool
  | int
  | float
  | binary
  | timestamp
  | orderedPairs
  | set
  | text
  | sequence
  | mapping
  /-- The key under which other maps are merged in. -/
  | merge
  /-- The key under which a map has the scalar that it stands for. -/
  | value
  | unknown
  deriving DecidableEq, Inhabited

namespace Tag

/-- What the tags of the standard begin with. -/
def standard : String := "tag:yaml.org,2002:"

/-- The tags of the standard by their names. -/
def byName : List (String × Tag) :=
  [("null", .null), ("bool", .bool), ("int", .int), ("float", .float), ("binary", .binary),
    ("timestamp", .timestamp), ("omap", .orderedPairs), ("pairs", .orderedPairs), ("set", .set),
    ("str", .text), ("seq", .sequence), ("map", .mapping), ("merge", .merge), ("value", .value)]

/-- The tag with a full name. -/
def ofName (s : String) : Tag :=
  ((byName.find? fun (name, _) => s = standard ++ name).map (·.2)).getD .unknown

/-- The words for truth values. -/
def truthWords : List String :=
  ["yes", "Yes", "YES", "no", "No", "NO", "true", "True", "TRUE", "false", "False", "FALSE", "on",
    "On", "ON", "off", "Off", "OFF"]

/-- The words for null. -/
def nullWords : List String :=
  ["~", "null", "Null", "NULL", ""]

/-- A text without a sign at its beginning. -/
def unsigned (cs : List Char) : List Char :=
  match cs with
  | '+' :: r => r
  | '-' :: r => r
  | r => r

/-- Whether all characters are of a kind, underscores among them. -/
def allOf (test : Char → Bool) (cs : List Char) : Bool :=
  cs.all fun c => test c || c = '_'

/-- Whether a text has digits and underscores, a digit first. -/
def isNumeral (cs : List Char) : Bool :=
  (cs.head?.map isAsciiDigit).getD false && allOf isAsciiDigit cs

/-- Whether a text is a number below sixty, in one or two digits. -/
def isSixtieth : List Char → Bool
  | [a] => isAsciiDigit a
  | [a, b] => '0' ≤ a && a ≤ '5' && isAsciiDigit b
  | _ => false

/-- The parts of a text between colons. -/
def colonParts (cs : List Char) : List (List Char) :=
  cs.splitOn ':'

/-- Whether a text is a numeral followed by sixtieths, at least one. -/
def isSexagesimal (cs : List Char) : Bool :=
  match colonParts cs with
  | first :: second :: more => isNumeral first && (second :: more).all isSixtieth
  | _ => false

/-- Whether a text writes an integer. -/
def isInt (cs : List Char) : Bool :=
  match unsigned cs with
  | '0' :: 'b' :: ds => !ds.isEmpty && allOf (fun c => c = '0' || c = '1') ds
  | '0' :: 'x' :: ds => !ds.isEmpty && allOf isHexDigit ds
  | ['0'] => true
  | '0' :: ds => allOf (fun c => '0' ≤ c && c ≤ '7') ds
  | cs => isNumeral cs || isSexagesimal cs

/-- Whether a text is an exponent with a sign, or nothing. -/
def isExponent (cs : List Char) : Bool :=
  match cs with
  | [] => true
  | e :: sign :: ds =>
    (e = 'e' || e = 'E') && (sign = '+' || sign = '-') && !ds.isEmpty && ds.all isAsciiDigit
  | _ => false

/-- The text after digits and underscores. -/
def afterDigits (cs : List Char) : List Char :=
  cs.dropWhile fun c => isAsciiDigit c || c = '_'

/-- Whether a text writes a double. -/
def isFloat (cs : List Char) : Bool :=
  let body := unsigned cs
  let whole := body.takeWhile (· ≠ '.')
  match body.drop whole.length with
  | '.' :: rest =>
    if whole.isEmpty then
      ["inf", "Inf", "INF"].contains (String.ofList rest) ||
        (body.length == cs.length && (["nan", "NaN", "NAN"].contains (String.ofList rest) ||
          ((rest.head?.map isAsciiDigit).getD false && isExponent (afterDigits rest))))
    else
      (isNumeral whole && isExponent (afterDigits rest)) ||
        (isSexagesimal whole && allOf isAsciiDigit rest)
  | _ => false

/-- The tag of a plain scalar. -/
def ofPlain (s : String) : Tag :=
  let cs := s.toList
  if truthWords.contains s then .bool
  else if isFloat cs then .float
  else if isInt cs then .int
  else if s = "<<" then .merge
  else if nullWords.contains s then .null
  else if Timestamp.isPlain cs then .timestamp
  else if s = "=" then .value
  else if s = "!" || s = "&" || s = "*" then .unknown
  else .text

end Tag

end DataContract.Yaml

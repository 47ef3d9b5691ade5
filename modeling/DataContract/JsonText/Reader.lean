/-
Values from JSON texts.

Beyond the standard's forms the words for NaN and the infinities are read. Of entries with one key
the first gives the place and the last the value. A text that is no JSON is refused with a
`JsonReadFault`: what is wrong, and where. An integer with too many digits is refused too, though
its form is right. Texts are of Unicode characters: an escape for half of a pair of surrogates, without
its other half, is read as U+FFFD.
-/
import DataContract.Value.Equality

namespace DataContract

/-- What is wrong with a JSON text at a place. -/
inductive JsonProblem where
  | byteOrderMark
  | extraData
  | noValue
  | noKey
  | noColon
  | noComma
  | unterminatedString
  | controlCharacter
  | badEscape
  | badUnitEscape
  deriving DecidableEq, Inhabited

/-- Why a text cannot be read as JSON. -/
inductive JsonReadFault where
  /-- The problem and how many characters are left from where it is. -/
  | malformed (problem : JsonProblem) (left : Nat)
  | tooManyDigits (count : Nat)
  deriving DecidableEq, Inhabited

namespace JsonProblem

/-- What a problem reads. -/
def message : JsonProblem → String
  | .byteOrderMark => "Unexpected UTF-8 BOM (decode using utf-8-sig)"
  | .extraData => "Extra data"
  | .noValue => "Expecting value"
  | .noKey => "Expecting property name enclosed in double quotes"
  | .noColon => "Expecting ':' delimiter"
  | .noComma => "Expecting ',' delimiter"
  | .unterminatedString => "Unterminated string starting at"
  | .controlCharacter => "Invalid control character at"
  | .badEscape => "Invalid \\escape"
  | .badUnitEscape => "Invalid \\uXXXX escape"

end JsonProblem

namespace JsonText

/-- What is read, and the characters that are left. -/
abbrev WithRest (α : Type) := α × List Char

/-- A problem before the characters that are left. -/
def problem {α : Type} (p : JsonProblem) (left : List Char) : Except JsonReadFault (WithRest α) :=
  .error (.malformed p left.length)

/-- Whether a character may stand between the parts of a JSON text. -/
def isBlank (c : Char) : Bool :=
  c = ' ' || c = '\t' || c = '\n' || c = '\r'

/-- The characters from the first that is not blank. -/
def skipBlanks (cs : List Char) : List Char :=
  cs.dropWhile isBlank

/-- The number of four hexadecimal digits that other characters follow. -/
def unitValue? (cs : List Char) : Option (Nat × List Char) :=
  match cs with
  | a :: b :: c :: d :: e :: rest =>
    if [a, b, c, d].all isHexDigit then some (digitsValue 16 digitOf [a, b, c, d], e :: rest)
    else none
  | _ => none

/-- The character of a number; of one that is no character, the one that stands in for such. -/
def charOf (n : Nat) : Char :=
  if n.isValidChar then Char.ofNat n else '\ufffd'

/-- The letter of an escape that is no number. -/
def simpleEscape? : Char → Option Char
  | '"' => some '"'
  | '\\' => some '\\'
  | '/' => some '/'
  | 'b' => some '\x08'
  | 'f' => some '\x0c'
  | 'n' => some '\n'
  | 'r' => some '\r'
  | 't' => some '\t'
  | _ => none

/-- A character after `\u`; `escape` is what is left from the letter on. Two units that form a pair
are one character. -/
def unitEscaped (escape : List Char) : Except JsonReadFault (WithRest Char) :=
  match unitValue? (escape.drop 1) with
  | none => problem .badUnitEscape escape
  | some (high, rest) =>
    if 0xd800 ≤ high ∧ high < 0xdc00 ∧ 6 < rest.length then
      match rest with
      | '\\' :: 'u' :: more =>
        match unitValue? more with
        | none => problem .badUnitEscape ('u' :: more)
        | some (low, after) =>
          if 0xdc00 ≤ low ∧ low < 0xe000 then
            .ok (charOf (0x10000 + (high - 0xd800) * 0x400 + (low - 0xdc00)), after)
          else .ok (charOf high, rest)
      | _ => .ok (charOf high, rest)
    else .ok (charOf high, rest)

/-- The characters of a string up to its closing quote; `opening` is what is left from its opening
quote on, and `fuel` bounds how many characters it has. -/
def stringBody (opening : List Char) : Nat → List Char → Except JsonReadFault (WithRest (List Char))
  | 0, _ => problem .unterminatedString opening
  | _, [] => problem .unterminatedString opening
  | _, '"' :: rest => .ok ([], rest)
  | _, ['\\'] => problem .unterminatedString opening
  | fuel + 1, '\\' :: 'u' :: rest => do
    let (c, rest) ← unitEscaped ('u' :: rest)
    let (cs, rest) ← stringBody opening fuel rest
    return (c :: cs, rest)
  | fuel + 1, '\\' :: e :: rest =>
    match simpleEscape? e with
    | none => problem .badEscape ('\\' :: e :: rest)
    | some c => do
      let (cs, rest) ← stringBody opening fuel rest
      return (c :: cs, rest)
  | fuel + 1, c :: rest =>
    if c.toNat ≤ 0x1f then problem .controlCharacter (c :: rest)
    else do
      let (cs, rest) ← stringBody opening fuel rest
      return (c :: cs, rest)

/-- A string after its opening quote. -/
def stringAfterQuote (rest : List Char) : Except JsonReadFault (WithRest String) := do
  let (cs, rest) ← stringBody ('"' :: rest) (rest.length + 1) rest
  return (String.ofList cs, rest)

/-- The digits of a fraction after a point, if there are any. -/
def fraction (cs : List Char) : List Char × List Char :=
  match cs with
  | '.' :: rest =>
    let ds := rest.takeWhile isAsciiDigit
    if ds.isEmpty then ([], cs) else ('.' :: ds, rest.drop ds.length)
  | _ => ([], cs)

/-- An exponent, if there is a whole one. -/
def exponent (cs : List Char) : List Char × List Char :=
  match cs with
  | e :: rest =>
    if e = 'e' ∨ e = 'E' then
      let (sign, body) :=
        match rest with
        | '-' :: r => (['-'], r)
        | '+' :: r => (['+'], r)
        | r => ([], r)
      let ds := body.takeWhile isAsciiDigit
      if ds.isEmpty then ([], cs) else (e :: (sign ++ ds), body.drop ds.length)
    else ([], cs)
  | [] => ([], cs)

/-- The digits before a point: a zero alone, or digits that begin with no zero. -/
def wholeDigits? (cs : List Char) : Option (List Char × List Char) :=
  match cs with
  | '0' :: rest => some (['0'], rest)
  | c :: rest =>
    if isAsciiDigit c then
      let ds := rest.takeWhile isAsciiDigit
      some (c :: ds, rest.drop ds.length)
    else none
  | [] => none

/-- A number. -/
def number (cs : List Char) : Except JsonReadFault (WithRest Value) :=
  let (negative, unsigned) :=
    match cs with
    | '-' :: r => (true, r)
    | r => (false, r)
  match wholeDigits? unsigned with
  | none => problem .noValue cs
  | some (whole, rest) =>
    let (frac, rest) := fraction rest
    let (exp, rest) := exponent rest
    if frac.isEmpty && exp.isEmpty then
      if whole.length > digitLimit then .error (.tooManyDigits whole.length)
      else .ok (.int (Double.signed negative (decimalValue whole)), rest)
    else
      match Double.ofUnsigned? negative (whole ++ frac ++ exp) with
      | some x => .ok (.float x, rest)
      | none => problem .noValue cs

/-- The words that stand for values. -/
def words : List (List Char × Value) :=
  [("null".toList, .null), ("true".toList, .bool true), ("false".toList, .bool false),
    ("NaN".toList, .float .nan), ("Infinity".toList, .float (.infinite false)),
    ("-Infinity".toList, .float (.infinite true))]

/-- A word or number. -/
def scalar (cs : List Char) : Except JsonReadFault (WithRest Value) :=
  match words.find? fun w => w.1.isPrefixOf cs with
  | some (word, v) => .ok (v, cs.drop word.length)
  | none => number cs

/-- The key of an entry and the colon after it. -/
def entryKey (cs : List Char) : Except JsonReadFault (WithRest String) :=
  match cs with
  | '"' :: rest => do
    let (k, rest) ← stringAfterQuote rest
    match skipBlanks rest with
    | ':' :: more => return (k, skipBlanks more)
    | rest => problem .noColon rest
  | cs => problem .noKey cs

mutual

/-- A value. -/
def value : Nat → List Char → Except JsonReadFault (WithRest Value)
  | 0, cs => problem .noValue cs
  | _, [] => problem .noValue []
  | fuel + 1, c :: rest =>
    if c = '"' then do
      let (s, rest) ← stringAfterQuote rest
      return (.text s, rest)
    else if c = '[' then
      match skipBlanks rest with
      | ']' :: more => .ok (.list [], more)
      | more => do
        let (vs, rest) ← items fuel more
        return (.list vs, rest)
    else if c = '\x7b' then
      match skipBlanks rest with
      | '\x7d' :: more => .ok (.map [], more)
      | more => do
        let (es, rest) ← entries fuel more
        return (.map (Value.ofEntries es), rest)
    else scalar (c :: rest)

/-- The items of a list that is not empty, and the bracket after them. -/
def items : Nat → List Char → Except JsonReadFault (WithRest (List Value))
  | 0, cs => problem .noValue cs
  | fuel + 1, cs => do
    let (v, rest) ← value fuel cs
    match skipBlanks rest with
    | ']' :: more => return ([v], more)
    | ',' :: more => do
      let (vs, rest) ← items fuel (skipBlanks more)
      return (v :: vs, rest)
    | rest => problem .noComma rest

/-- The entries of a map that is not empty, and the brace after them. -/
def entries : Nat → List Char → Except JsonReadFault (WithRest (List (Value × Value)))
  | 0, cs => problem .noValue cs
  | fuel + 1, cs => do
    let (k, rest) ← entryKey cs
    let (v, rest) ← value fuel rest
    match skipBlanks rest with
    | '\x7d' :: more => return ([(.text k, v)], more)
    | ',' :: more => do
      let (es, rest) ← entries fuel (skipBlanks more)
      return ((.text k, v) :: es, rest)
    | rest => problem .noComma rest

end

/-- The value that a whole text writes. -/
def valueOf (cs : List Char) : Except JsonReadFault Value :=
  match cs with
  | '\ufeff' :: _ => .error (.malformed .byteOrderMark cs.length)
  | cs => do
    let (v, rest) ← value (2 * cs.length + 1) (skipBlanks cs)
    match skipBlanks rest with
    | [] => return v
    | rest => .error (.malformed .extraData rest.length)

/-- Reads a JSON text. -/
def read (s : String) : Except JsonReadFault Value :=
  valueOf s.toList

/-- A place in a text by line and column, from one, and by the number of characters before it. -/
def placeText (cs : List Char) (place : Nat) : String :=
  let before := cs.take place
  let line := before.count '\n' + 1
  let column := (before.reverse.takeWhile (· ≠ '\n')).length + 1
  ": line " ++ toString line ++ " column " ++ toString column ++ " (char " ++ toString place ++ ")"

/-- What the refusal of a text reads. -/
def refusal (s : String) : JsonReadFault → String
  | .malformed p left => p.message ++ placeText s.toList (s.toList.length - left)
  | .tooManyDigits count => TooManyDigits.readMessage count

end JsonText

end DataContract

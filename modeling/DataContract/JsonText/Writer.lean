/-
Values as JSON texts.

Texts are written in ASCII, so a JSON text holds no control characters but the line feeds of its
layout. A list or map is written with its items; what JSON has no form for is written as the text
of its value. A key must be a text, a number, a truth value or null.

* `JsonText.line` — a value on a single line;
* `JsonText.block` — a value with each item on a line of its own, indented.
-/
import DataContract.Value.Rendering

namespace DataContract

/-- Why a value has no JSON text. -/
inductive JsonWriteFault where
  | keyType (type : String)
  | tooManyDigits
  deriving DecidableEq, Inhabited

/-- What the lack of a JSON text reads. -/
def JsonWriteFault.message : JsonWriteFault → String
  | .keyType type => "keys must be str, int, float, bool or None, not " ++ type
  | .tooManyDigits => TooManyDigits.message

namespace JsonText

/-- Where the parts of a list or map stand: on one line, or each on its own, so many blanks deeper
than what holds it. -/
inductive Layout where
  | line
  | block (blanks : Nat)
  deriving DecidableEq, Inhabited

/-- A unit of UTF-16 by its number. -/
def unitEscape (n : Nat) : List Char :=
  '\\' :: 'u' :: Text.hexDigits 4 n

/-- A character inside a JSON text. -/
def escaped (c : Char) : List Char :=
  if c = '"' ∨ c = '\\' then ['\\', c]
  else if c = '\n' then ['\\', 'n']
  else if c = '\r' then ['\\', 'r']
  else if c = '\t' then ['\\', 't']
  else if c = '\x0c' then ['\\', 'f']
  else if c = '\x08' then ['\\', 'b']
  else if ' ' ≤ c ∧ c ≤ '~' then [c]
  else if c.toNat < 0x10000 then unitEscape c.toNat
  else unitEscape (0xd800 + (c.toNat - 0x10000) / 0x400) ++
    unitEscape (0xdc00 + (c.toNat - 0x10000) % 0x400)

/-- A text between quotes. -/
def string (s : String) : List Char :=
  '"' :: (s.toList.flatMap escaped ++ ['"'])

/-- What comes before a part that is so many levels deep. -/
def Layout.start (l : Layout) (depth : Nat) : List Char :=
  match l with
  | .line => []
  | .block blanks => '\n' :: List.replicate (blanks * depth) ' '

/-- What comes between two parts. -/
def Layout.comma (l : Layout) (depth : Nat) : List Char :=
  match l with
  | .line => [',', ' ']
  | .block _ => ',' :: l.start depth

/-- Parts, so many levels deep, between marks; the marks alone if there are none. -/
def Layout.around (l : Layout) (depth : Nat) (opening closing : Char) (parts : List (List Char)) :
    List Char :=
  if parts.isEmpty then [opening, closing]
  else opening :: (l.start (depth + 1) ++ (l.comma (depth + 1)).intercalate parts ++
    l.start depth ++ [closing])

/-- A number in digits. -/
def digits (n : Int) : Except JsonWriteFault (List Char) :=
  match decimalText n with
  | .ok s => .ok s.toList
  | .error _ => .error .tooManyDigits

/-- The text of a value that JSON has no form for. -/
def otherwise (v : Value) : Except JsonWriteFault (List Char) :=
  match v.display with
  | .ok s => .ok (string s)
  | .error _ => .error .tooManyDigits

/-- A truth value. -/
def truth (b : Bool) : List Char :=
  (if b then "true" else "false").toList

/-- A double. -/
def double (x : Double) : List Char :=
  (x.textIn .json).toList

/-- A value without parts. -/
def atomic (v : Value) : Except JsonWriteFault (List Char) :=
  match v, v.asText?, v.asNumber? with
  | .null, _, _ => .ok "null".toList
  | .bool b, _, _ => .ok (truth b)
  | _, some s, _ => .ok (string s)
  | _, none, some (.int n) => digits n
  | _, none, some (.double x) => .ok (double x)
  | v, none, none => otherwise v

/-- The key of an entry. -/
def key (k : Value) : Except JsonWriteFault (List Char) :=
  match k, k.asText?, k.asNumber? with
  | .null, _, _ => .ok (string "null")
  | .bool b, _, _ => .ok ('"' :: (truth b ++ ['"']))
  | _, some s, _ => .ok (string s)
  | _, none, some (.int n) => do
    let ds ← digits n
    return '"' :: (ds ++ ['"'])
  | _, none, some (.double x) => .ok ('"' :: (double x ++ ['"']))
  | k, none, none => .error (.keyType k.qualifiedTypeName)

mutual

/-- A value that stands so many levels deep. -/
def written (l : Layout) (depth : Nat) : Value → Except JsonWriteFault (List Char)
  | .sequence _ items => do
    let parts ← writtenItems l (depth + 1) items
    return l.around depth '[' ']' parts
  | .mapping k es =>
    if k.isOwn then do
      let parts ← writtenEntries l (depth + 1) es
      return l.around depth '\x7b' '\x7d' parts
    else atomic (.mapping k es)
  | v => atomic v

/-- Items in order. -/
def writtenItems (l : Layout) (depth : Nat) : List Value → Except JsonWriteFault (List (List Char))
  | [] => .ok []
  | v :: rest => do
    let first ← written l depth v
    let others ← writtenItems l depth rest
    return first :: others

/-- Entries in order, each a key and a value. -/
def writtenEntries (l : Layout) (depth : Nat) :
    List (Value × Value) → Except JsonWriteFault (List (List Char))
  | [] => .ok []
  | (k, v) :: rest => do
    let name ← key k
    let value ← written l depth v
    let others ← writtenEntries l depth rest
    return (name ++ ':' :: ' ' :: value) :: others

end

/-- A value as JSON on a single line. -/
def line (v : Value) : Except JsonWriteFault String :=
  (written .line 0 v).map String.ofList

/-- A value as JSON with each part on a line of its own. -/
def block (blanks : Nat) (v : Value) : Except JsonWriteFault String :=
  (written (.block blanks) 0 v).map String.ofList

end JsonText

end DataContract

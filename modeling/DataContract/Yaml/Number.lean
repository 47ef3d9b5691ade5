/-
Numbers and bytes as YAML writes them.

An integer is written with base two, eight, ten or sixteen, or in parts that count sixties; a double
in decimal digits, or in such parts, or as a word. Underscores do not count.
-/
import DataContract.Yaml.Tag
import DataContract.Text.Blank
import DataContract.JsonText.Reader

namespace DataContract.Yaml

/-- Whether a character is a digit in a base. -/
def isDigitIn (base : Nat) (c : Char) : Bool :=
  isHexDigit c && digitOf c < base

/-- A sign before a number, and the number without it. -/
def signOf (cs : List Char) : Bool × List Char :=
  match cs with
  | '-' :: r => (true, r)
  | '+' :: r => (false, r)
  | r => (false, r)

/-- The integer that digits in a base write, blanks around them and a sign before them. -/
def integerIn (base : Nat) (cs : List Char) : Except YamlFault Int :=
  let (negative, unsigned) := signOf (Text.trimmed cs)
  let ds :=
    match unsigned with
    | '0' :: 'o' :: r => if base = 8 then r else unsigned
    | _ => unsigned
  if ds.isEmpty || !ds.all (isDigitIn base) then .error (.notInteger base (String.ofList cs))
  else if base = 10 && ds.length > digitLimit then .error (.tooManyDigits ds.length)
  else .ok (Double.signed negative (digitsValue base digitOf ds))

/-- The integers of parts that count sixties, in order. -/
def integerParts : List (List Char) → Except YamlFault (List Int)
  | [] => .ok []
  | part :: rest => do
    let first ← integerIn 10 part
    let others ← integerParts rest
    return first :: others

/-- The integer that a text writes without its sign. -/
def unsignedInteger (cs : List Char) : Except YamlFault Int :=
  match cs with
  | [] => .error .emptyNumber
  | ['0'] => .ok 0
  | '0' :: 'b' :: ds => integerIn 2 ds
  | '0' :: 'x' :: ds => integerIn 16 ds
  | '0' :: ds => integerIn 8 ('0' :: ds)
  | cs =>
    if cs.contains ':' then do
      let parts ← integerParts (Tag.colonParts cs)
      return parts.foldl (fun n part => n * 60 + part) 0
    else integerIn 10 cs

/-- The integer that a text writes. -/
def integerOf (s : String) : Except YamlFault Int := do
  let cs := s.toList.filter (· ≠ '_')
  if cs.isEmpty then .error .emptyNumber
  else
    let (negative, unsigned) := signOf cs
    let n ← unsignedInteger unsigned
    return if negative then -n else n

/-- The double that decimal digits write, blanks around them. -/
def decimalDouble (cs : List Char) : Except YamlFault Double :=
  match Double.ofText? (Text.trimmed cs) with
  | some x => .ok x
  | none => .error (.notNumber (String.ofList cs))

/-- The doubles of parts that count sixties, in order. -/
def doubleParts : List (List Char) → Except YamlFault (List Double)
  | [] => .ok []
  | part :: rest => do
    let first ← decimalDouble part
    let others ← doubleParts rest
    return first :: others

/-- The sum of parts that count sixties, from the last to the first, rounded at each step. -/
def sexagesimalSum (parts : List Double) : Double :=
  (parts.reverse.foldl (fun (sum, base) part => (sum.add (part.scale base), base * 60))
    (Double.zero, 1)).1

/-- The double that a text writes without its sign. -/
def unsignedDouble (cs : List Char) : Except YamlFault Double :=
  if cs = ".inf".toList then .ok (.infinite false)
  else if cs = ".nan".toList then .ok .nan
  else if cs.contains ':' then do
    let parts ← doubleParts (Tag.colonParts cs)
    return sexagesimalSum parts
  else decimalDouble cs

/-- The double that a text writes. -/
def doubleOf (s : String) : Except YamlFault Double := do
  let cs := (s.toList.filter (· ≠ '_')).map Char.toLower
  if cs.isEmpty then .error .emptyNumber
  else
    let (negative, unsigned) := signOf cs
    let x ← unsignedDouble unsigned
    return if negative then x.neg else x

namespace Base64

/-- The six bits of a character; none for those that do not count. -/
def bits? (c : Char) : Option Nat :=
  if 'A' ≤ c ∧ c ≤ 'Z' then some (c.toNat - 'A'.toNat)
  else if 'a' ≤ c ∧ c ≤ 'z' then some (c.toNat - 'a'.toNat + 26)
  else if '0' ≤ c ∧ c ≤ '9' then some (c.toNat - '0'.toNat + 52)
  else if c = '+' then some 62
  else if c = '/' then some 63
  else none

/-- Reads characters; `filled` of each four have been read, `left` holds the bits not yet written,
and `pads` counts the marks of padding in a row. Reading stops at padding that fills the four. -/
def bytes (filled left pads : Nat) : List Char → Option (List UInt8)
  | [] => if filled = 0 then some [] else none
  | c :: rest =>
    if c = '=' then
      if 2 ≤ filled ∧ 4 ≤ filled + pads + 1 then some []
      else bytes filled left (if 2 ≤ filled then pads + 1 else pads) rest
    else
      match bits? c with
      | none => bytes filled left pads rest
      | some b =>
        if filled = 0 then bytes 1 b 0 rest
        else if filled = 1 then
          (bytes 2 (b % 16) 0 rest).map (UInt8.ofNat (left * 4 + b / 16) :: ·)
        else if filled = 2 then
          (bytes 3 (b % 4) 0 rest).map (UInt8.ofNat (left * 16 + b / 4) :: ·)
        else (bytes 0 0 0 rest).map (UInt8.ofNat (left * 64 + b) :: ·)

/-- The bytes that a text in ASCII writes. -/
def decode? (s : String) : Option (List UInt8) :=
  if s.toList.all (·.toNat < 0x80) then bytes 0 0 0 s.toList else none

end Base64

end DataContract.Yaml

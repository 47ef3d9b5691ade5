/-
How numbers are written and read.

A double is written with the fewest digits that read back (`Double.shortest`), positionally while
the first digit stands between `10 ^ -4` and `10 ^ 15` and with an exponent otherwise; a whole
number keeps the digit after the point (`1.0`). An integer is written in full, up to a limit on
its digits (`Int.text`), beyond which writing fails.
-/
import DataContract.Number.Shortest

namespace DataContract

/-- How a family of texts writes doubles. -/
structure FloatLayout where
  /-- The least power of ten of a first digit that is still written positionally. -/
  leastPositional : Int
  /-- The greatest such power. -/
  greatestPositional : Int
  /-- Digits of an exponent, at least. -/
  exponentWidth : Nat
  nanText : String
  infinityText : String

/-- The layout of a double in messages. -/
def FloatLayout.message : FloatLayout :=
  ⟨-4, 15, 2, "nan", "inf"⟩

/-- The layout of a double in a JSON text. -/
def FloatLayout.json : FloatLayout :=
  ⟨-4, 15, 2, "NaN", "Infinity"⟩

/-- Zeros in front until the text has the width. -/
def padZeros (width : Nat) (cs : List Char) : List Char :=
  List.replicate (width - cs.length) '0' ++ cs

/-- The digits of `d` with a point in its place, and a zero on either side of it if nothing else
stands there. -/
def Decimal.positional (d : Decimal) : List Char :=
  let digits := d.text
  if d.exponent ≥ 0 then digits ++ List.replicate d.exponent.toNat '0' ++ ['.', '0']
  else
    let places := (-d.exponent).toNat
    let padded := padZeros (places + 1) digits
    padded.take (padded.length - places) ++ '.' :: padded.drop (padded.length - places)

/-- An exponent with its sign and at least `width` digits. -/
def exponentText (width : Nat) (e : Int) : List Char :=
  (if e < 0 then '-' else '+') :: padZeros width (Nat.toDigits 10 e.natAbs)

/-- The digits of `d` with a point after the first, if more follow, and an exponent. -/
def Decimal.scientific (width : Nat) (d : Decimal) : List Char :=
  match d.text with
  | [] => []
  | c :: [] => c :: 'e' :: exponentText width d.magnitude
  | c :: rest => c :: '.' :: (rest ++ 'e' :: exponentText width d.magnitude)

/-- The text of a double in a layout. -/
def Double.textIn (layout : FloatLayout) : Double → String
  | .nan => layout.nanText
  | .infinite negative => (if negative then "-" else "") ++ layout.infinityText
  | .finite negative mantissa shift =>
    let d := Double.shortest mantissa shift
    let body :=
      if mantissa = 0 then ['0', '.', '0']
      else if layout.leastPositional ≤ d.magnitude ∧ d.magnitude ≤ layout.greatestPositional then
        d.positional
      else d.scientific layout.exponentWidth
    (if negative then "-" else "") ++ String.ofList body

/-- The text of a double in messages. -/
def Double.text (x : Double) : String :=
  x.textIn .message

/-- How many decimal digits an integer may have and still be written or read. -/
def digitLimit : Nat := 4300

/-- An integer has more digits than may be written. -/
inductive TooManyDigits where
  | mk
  deriving DecidableEq, Inhabited

/-- How a refusal to write or to read an integer begins. -/
def TooManyDigits.headline : String :=
  "Exceeds the limit (4300 digits) for integer string conversion"

/-- What the refusals advise. -/
def TooManyDigits.advice : String :=
  "; use sys.set_int_max_str_digits() to increase the limit"

/-- What a refusal to write an integer reads. -/
def TooManyDigits.message : String :=
  headline ++ advice

/-- What a refusal to read an integer reads that has this many digits. -/
def TooManyDigits.readMessage (count : Nat) : String :=
  headline ++ ": value has " ++ toString count ++ " digits" ++ advice

/-- The decimal text of an integer, refused beyond the digit limit. -/
def decimalText (n : Int) : Except TooManyDigits String :=
  if n.natAbs < Nat.pow 10 digitLimit then .ok (toString n) else .error .mk

/-- The text of a number in messages. -/
def Number.text : Number → Except TooManyDigits String
  | .int n => decimalText n
  | .double x => .ok x.text

/-- The digits of a decimal numeral, least significant last. -/
def digitsValue (base : Nat) (value : Char → Nat) (cs : List Char) : Nat :=
  cs.foldl (fun n c => n * base + value c) 0

/-- The value of an ASCII digit or letter as a digit. -/
def digitOf (c : Char) : Nat :=
  if '0' ≤ c ∧ c ≤ '9' then c.toNat - '0'.toNat
  else if 'a' ≤ c ∧ c ≤ 'z' then c.toNat - 'a'.toNat + 10
  else if 'A' ≤ c ∧ c ≤ 'Z' then c.toNat - 'A'.toNat + 10
  else 0

/-- The natural number a list of decimal digits denotes. -/
def decimalValue (cs : List Char) : Nat :=
  digitsValue 10 digitOf cs

/-- Whether a character is one of the ten ASCII digits. -/
def isAsciiDigit (c : Char) : Bool :=
  '0' ≤ c && c ≤ '9'

/-- Whether a character is an ASCII digit or one of the letters `a` to `f`. -/
def isHexDigit (c : Char) : Bool :=
  isAsciiDigit c || ('a' ≤ c && c ≤ 'f') || ('A' ≤ c && c ≤ 'F')

/-- Reads `digits [. digits] [e [sign] digits]` with digits on at least one side of the point, the
whole text; no sign in front. -/
def Double.ofUnsigned? (negative : Bool) (cs : List Char) : Option Double :=
  let whole := cs.takeWhile isAsciiDigit
  let rest := cs.dropWhile isAsciiDigit
  let (fraction, rest) :=
    match rest with
    | '.' :: r => (r.takeWhile isAsciiDigit, r.dropWhile isAsciiDigit)
    | r => ([], r)
  if whole.isEmpty && fraction.isEmpty then none
  else
    let digits := decimalValue (whole ++ fraction)
    let places : Int := fraction.length
    match rest with
    | [] => some (Double.ofDecimal negative digits (-places))
    | e :: rest =>
      if e ≠ 'e' ∧ e ≠ 'E' then none
      else
        let (minus, ds) :=
          match rest with
          | '-' :: r => (true, r)
          | '+' :: r => (false, r)
          | r => (false, r)
        if ds.isEmpty || !ds.all isAsciiDigit then none
        else
          let exponent : Int := decimalValue ds
          some (Double.ofDecimal negative digits ((if minus then -exponent else exponent) - places))

/-- Reads a signed decimal double, or a spelling of infinity or NaN in any case. -/
def Double.ofText? (cs : List Char) : Option Double :=
  let (negative, body) :=
    match cs with
    | '-' :: r => (true, r)
    | '+' :: r => (false, r)
    | r => (false, r)
  let word := String.ofList (body.map Char.toLower)
  if word = "inf" || word = "infinity" then some (.infinite negative)
  else if word = "nan" then some .nan
  else Double.ofUnsigned? negative body

end DataContract

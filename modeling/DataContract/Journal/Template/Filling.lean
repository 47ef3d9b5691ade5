/-
Filling the directives of a template with arguments.

Arguments are a row of values, or a map. Of a row each directive takes the next, and all must be
taken in the end; of a map a directive takes what its key names or, once, the map itself.

* `Template.fill` — a template with its directives replaced.
-/
import DataContract.Journal.Template
import DataContract.Number.Rounded
import DataContract.Value.Rendering

namespace DataContract

/-- Why a template cannot be filled. -/
inductive TemplateFault where
  | tooFewArguments
  | tooManyArguments
  /-- A directive has a key, but the arguments are no map. -/
  | noMapping
  | missingKey (key : String)
  | keyUnclosed
  | incomplete
  | unknownLetter (c : Char) (index : Nat)
  /-- A width or precision taken from the arguments is no integer. -/
  | extentNotInteger
  | widthTooBig
  | precisionTooBig
  /-- A letter asks for a number, or for an integer, and gets a value of another type. -/
  | notNumber (letter : Char) (type : String)
  | notInteger (letter : Char) (type : String)
  | notReal (type : String)
  | notCharacter
  | noSuchCharacter
  /-- The infinity and NaN are no integers. -/
  | infinite
  | notANumber
  /-- An integer lies beyond all doubles. -/
  | tooLarge
  | tooManyDigits
  deriving DecidableEq, Inhabited

namespace TemplateFault

/-- A letter as it is shown: those outside of plain ASCII as a question mark. -/
def shownLetter (c : Char) : Char :=
  if 31 ≤ c.toNat ∧ c.toNat < 126 then c else '?'

/-- What the refusal reads. -/
def message : TemplateFault → String
  | .tooFewArguments => "not enough arguments for format string"
  | .tooManyArguments => "not all arguments converted during string formatting"
  | .noMapping => "format requires a mapping"
  | .missingKey key => Text.quoted key
  | .keyUnclosed => "incomplete format key"
  | .incomplete => "incomplete format"
  | .unknownLetter c index =>
    "unsupported format character '" ++ String.singleton (shownLetter c) ++ "' (0x" ++
      String.ofList (Nat.toDigits 16 c.toNat) ++ ") at index " ++ toString index
  | .extentNotInteger => "* wants int"
  | .widthTooBig => "width too big"
  | .precisionTooBig => "precision too big"
  | .notNumber letter type =>
    "%" ++ String.singleton letter ++ " format: a real number is required, not " ++ type
  | .notInteger letter type =>
    "%" ++ String.singleton letter ++ " format: an integer is required, not " ++ type
  | .notReal type => "must be real number, not " ++ type
  | .notCharacter => "%c requires int or char"
  | .noSuchCharacter => "%c arg not in range(0x110000)"
  | .infinite => "cannot convert float infinity to integer"
  | .notANumber => "cannot convert float NaN to integer"
  | .tooLarge => "int too large to convert to float"
  | .tooManyDigits => TooManyDigits.message

end TemplateFault

namespace Value

/-- The integer that a value is, truth values being zero and one. -/
def asInteger? : Value → Option Int
  | .bool b => some (if b then 1 else 0)
  | v =>
    match v.asNumber? with
    | some (.int n) => some n
    | _ => none

end Value

namespace Template

/-- Arguments that are still to be taken: of a map those that can be taken by their keys, and a row. -/
structure Supply where
  named : Option (List (Value × Value))
  row : List Value
  deriving Inhabited

namespace Supply

/-- The supply that arguments make: a map that is not empty, given alone, is taken as such. -/
def ofArguments (arguments : List Value) : Supply :=
  match arguments with
  | [.mapping kind (e :: es)] => ⟨some (e :: es), [.mapping kind (e :: es)]⟩
  | row => ⟨none, row⟩

/-- Takes the next argument. -/
def next (s : Supply) : Except TemplateFault (Value × Supply) :=
  match s.row with
  | v :: rest => .ok (v, { s with row := rest })
  | [] => .error .tooFewArguments

/-- Makes the argument that a key names the next and only one. -/
def select (s : Supply) (key : Key) : Except TemplateFault Supply :=
  match key, s.named with
  | .absent, _ => .ok s
  | _, none => .error .noMapping
  | .unclosed, some _ => .error .keyUnclosed
  | .named key, some es =>
    match Value.lookup? (.text key) es with
    | some v => .ok { s with row := [v] }
    | none => .error (.missingKey key)

end Supply

/-- The greatest width and the greatest precision that may be given in digits. -/
def greatestWidth : Nat := 0x7fffffffffffffff

@[inherit_doc greatestWidth]
def greatestPrecision : Nat := 0x7fffffff

/-- An extent as an integer, if it is there; one given in digits has a limit. -/
def extent (e : Extent) (greatest : Nat) (fault : TemplateFault) (s : Supply) :
    Except TemplateFault (Option Int × Supply) :=
  match e with
  | .absent => .ok (none, s)
  | .given n => if n ≤ greatest then .ok (some n, s) else .error fault
  | .argument => do
    let (v, s) ← s.next
    match v.asInteger? with
    | some n => return (some n, s)
    | none => throw .extentNotInteger

/-- What a directive writes of an argument, before padding. -/
structure Written where
  /-- Whether it is a number, which may have a sign and be padded with zeros. -/
  isNumber : Bool
  isNegative : Bool
  /-- The mark of the base. -/
  mark : List Char
  body : List Char

/-- The text of an argument, cut to the precision. -/
def textWritten (precision : Option Nat) (text : Except TooManyDigits String) :
    Except TemplateFault Written :=
  match text with
  | .error _ => .error .tooManyDigits
  | .ok s => .ok ⟨false, false, [], (precision.map s.toList.take).getD s.toList⟩

/-- The base of a letter that writes an integer, and its mark. -/
def baseOf (letter : Char) : Nat × List Char :=
  if letter = 'o' then (8, ['0', 'o'])
  else if letter = 'x' ∨ letter = 'X' then (16, ['0', letter])
  else (10, [])

/-- The digits of an integer in the base of a letter. -/
def integerDigits (letter : Char) (n : Int) : Except TemplateFault (List Char) :=
  let (base, _) := baseOf letter
  if base = 10 ∧ Nat.pow 10 digitLimit ≤ n.natAbs then .error .tooManyDigits
  else
    let digits := Nat.toDigits base n.natAbs
    .ok (if letter = 'X' then digits.map Char.toUpper else digits)

/-- The integer that a letter writes of an argument: for a decimal one, a double is cut off. -/
def integerOf (letter : Char) (v : Value) : Except TemplateFault Int :=
  match v.asInteger?, v with
  | some n, _ => .ok n
  | none, .float x =>
    if (baseOf letter).1 ≠ 10 then .error (.notInteger letter v.typeName)
    else
      match x with
      | .nan => .error .notANumber
      | .infinite _ => .error .infinite
      | .finite negative mantissa shift =>
        .ok (Double.signed negative ((mantissa <<< shift) / Double.unitsPerOne))
  | none, v =>
    if (baseOf letter).1 = 10 then .error (.notNumber letter v.qualifiedTypeName)
    else .error (.notInteger letter v.qualifiedTypeName)

/-- An integer, with at least as many digits as the precision asks for. -/
def integerWritten (marked : Bool) (precision : Option Nat) (letter : Char) (v : Value) :
    Except TemplateFault Written := do
  let n ← integerOf letter v
  let digits ← integerDigits letter n
  let mark := if marked then (baseOf letter).2 else []
  return ⟨true, n < 0, mark, padZeros (precision.getD 0) digits⟩

/-- The double that an argument is. -/
def doubleOf (v : Value) : Except TemplateFault Double :=
  match v.asInteger?, v with
  | some n, _ =>
    match Double.ofInt n with
    | .infinite _ => .error .tooLarge
    | x => .ok x
  | none, .float x => .ok x
  | none, v => .error (.notReal v.qualifiedTypeName)

/-- The layout that a letter asks for. -/
def layoutOf (letter : Char) : RoundedLayout :=
  match letter.toLower with
  | 'e' => .scientific
  | 'f' => .fixed
  | _ => .general

/-- A double, rounded to the precision or else to six digits; capitals for a capital letter. -/
def doubleWritten (marked : Bool) (precision : Option Nat) (letter : Char) (v : Value) :
    Except TemplateFault Written := do
  let x ← doubleOf v
  let body := x.roundedMagnitude (layoutOf letter) (precision.getD 6) marked
  return ⟨true, x.isNegative, [], if letter.isUpper then body.map Char.toUpper else body⟩

/-- A single character, or the one with a number. -/
def characterWritten (v : Value) : Except TemplateFault Written :=
  match v.asText?, v.asInteger? with
  | some s, _ =>
    match s.toList with
    | [c] => .ok ⟨false, false, [], [c]⟩
    | _ => .error .notCharacter
  | none, some n =>
    if 0 ≤ n ∧ n < 0x110000 then .ok ⟨false, false, [], [Char.ofNat n.toNat]⟩
    else .error .noSuchCharacter
  | none, none => .error .notCharacter

/-- What a letter at an index writes of an argument. -/
def written (flags : Flags) (precision : Option Nat) (letter : Char) (index : Nat) (v : Value) :
    Except TemplateFault Written :=
  match letter with
  | 's' => textWritten precision v.display
  | 'r' => textWritten precision v.quoted
  | 'a' => textWritten precision (v.quoted.map Text.asciiOnly)
  | 'c' => characterWritten v
  | _ =>
    if "diuoxX".toList.contains letter then integerWritten flags.marked precision letter v
    else if "eEfFgG".toList.contains letter then doubleWritten flags.marked precision letter v
    else .error (.unknownLetter letter index)

/-- The sign of a number that is written. -/
def signOf (flags : Flags) (w : Written) : List Char :=
  if !w.isNumber then []
  else if w.isNegative then ['-']
  else if flags.plus then ['+']
  else if flags.blank then [' ']
  else []

/-- What is written with its sign and mark, padded to the width. -/
def padded (flags : Flags) (width : Nat) (w : Written) : List Char :=
  let front := signOf flags w ++ w.mark
  let gap := width - (front.length + w.body.length)
  if flags.left then front ++ w.body ++ List.replicate gap ' '
  else if flags.zeros && w.isNumber then front ++ List.replicate gap '0' ++ w.body
  else List.replicate gap ' ' ++ front ++ w.body

/-- What a directive writes. A width below zero pads to the right, a precision below zero is zero. -/
def fillDirective (d : Directive) (s : Supply) : Except TemplateFault (List Char × Supply) := do
  let s ← s.select d.key
  let (width, s) ← extent d.width greatestWidth .widthTooBig s
  let flags := { d.flags with left := d.flags.left || width.getD 0 < 0 }
  let (precision, s) ← extent d.precision greatestPrecision .precisionTooBig s
  match d.ending with
  | .missing => throw .incomplete
  | .letter c index =>
    let (v, s) ← s.next
    let w ← written flags (precision.map Int.toNat) c index v
    return (padded flags (width.getD 0).natAbs w, s)

/-- Fills the parts of a template in order. What a key names must be taken at once, and a row of
arguments must be taken in the end. -/
def fillPieces (s : Supply) : List Piece → Except TemplateFault (List Char)
  | [] => if s.named.isNone && !s.row.isEmpty then .error .tooManyArguments else .ok []
  | .literal c :: rest => do
    let others ← fillPieces s rest
    return c :: others
  | .directive d :: rest => do
    let (text, s) ← fillDirective d s
    if s.named.isSome && !s.row.isEmpty then throw .tooManyArguments
    let others ← fillPieces s rest
    return text ++ others

/-- A template with its directives replaced; without arguments it stands for itself. -/
def fill (template : String) (arguments : List Value) : Except TemplateFault String :=
  if arguments.isEmpty then .ok template
  else (fillPieces (.ofArguments arguments) (read template)).map String.ofList

end Template

end DataContract

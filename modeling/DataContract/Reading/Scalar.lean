/-
Reading texts, numbers, truth values and patterns from values.

A value of the right kind is taken as it is. Beyond that a text is also read from bytes and from a
member of an enumeration, a number from its written form, a truth value from `0`, `1` and the words
for yes and no, and an integer from a whole double. Where an integer is read without bounds, a member
that is no number gives whatever is assigned to it.
-/
import DataContract.Reading.Fault
import DataContract.Text.Blank
import DataContract.Text.Utf8
import DataContract.Contract.Basic

namespace DataContract.Reading

/-- How well a value fits what is read from it. -/
inductive Fit where
  | loose
  | close
  | exact
  deriving DecidableEq, Inhabited

namespace Fit

/-- Whether the first is the worse fit. -/
def worse : Fit → Fit → Bool
  | .loose, .close => true
  | .loose, .exact => true
  | .close, .exact => true
  | _, _ => false

end Fit

/-- The text of a string or of bytes; `kind` is the fault of bytes that are no text. -/
def writtenForm? (kind : FaultKind) (v : Value) : Reading (Option String) :=
  match v.asText?, v with
  | some s, _ => .ok (some s)
  | none, .bytes b =>
    match Utf8.decode b with
    | .ok s => .ok (some s)
    | .error _ => fault kind
  | none, _ => .ok none

/-- What a member of an enumeration has assigned to it. -/
def assigned? : Value → Option Bound
  | .atom ⟨_, _, .text s, _⟩ => some (.text s)
  | .atom ⟨_, _, .number n, _⟩ => some (.number (.int n))
  | .atom ⟨_, _, .double x, _⟩ => some (.number (.double x))
  | .sequence (.listMember _) items => some (.list items)
  | .sequence (.tupleMember _) items => some (.tuple items)
  | .mapping (.member _) entries => some (.map entries)
  | _ => none

/-- What is assigned to a member as text. -/
def assignedText (b : Bound) : String :=
  match b with
  | .number (.int n) => toString n
  | b => b.toValue.display.toOption.getD ""

/-- A text. -/
def text (v : Value) : Reading String :=
  match writtenForm? .notUnicode v with
  | .error e => .error e
  | .ok (some s) => .ok s
  | .ok none =>
    match assigned? v with
    | some b => .ok (assignedText b)
    | none => fault .notString

/-- A text that is not empty. -/
def nonEmptyText (v : Value) : Reading String :=
  match text v with
  | .ok s => if s = "" then fault .emptyString else .ok s
  | e => e

/-- The text or null. -/
def optionalText (v : Value) : Reading (Option String) :=
  match v with
  | .null => .ok none
  | v => (text v).map some

/-- What counts of an integer behind its sign: from its first digit other than zero on, from a minus
sign after zeros, or from the last zero before a point; none if anything else but zeros and
underscores comes before, or no digit first. -/
def significantPart? : List Char → Option (List Char)
  | [] => none
  | c :: rest =>
    if '1' ≤ c ∧ c ≤ '9' then some (c :: rest)
    else if c = '0' then
      let skipped := rest.takeWhile fun d => d = '0' || d = '_'
      let before := skipped.getLast?.getD '0'
      match rest.drop skipped.length with
      | [] => some [before]
      | d :: more =>
        if ('1' ≤ d ∧ d ≤ '9') ∨ d = '-' then some (d :: more)
        else if d = '.' then some (before :: d :: more)
        else none
    else none

/-- A text without a fraction of zeros, of which there is at least one. -/
def withoutZeroFraction (cs : List Char) : List Char :=
  let fraction := (cs.dropWhile (· ≠ '.')).drop 1
  if !fraction.isEmpty && fraction.all (· = '0') then cs.takeWhile (· ≠ '.') else cs

/-- The integer with an optional minus sign and digits, the whole text; behind the sign the first of
several digits is no zero. -/
def signedInteger? (cs : List Char) : Option Int :=
  let (negative, digits) :=
    match cs with
    | '-' :: r => (true, r)
    | r => (false, r)
  if digits.isEmpty || !digits.all isAsciiDigit then none
  else if negative && digits.head? = some '0' && digits.length > 1 then none
  else some (Double.signed negative (decimalValue digits))

/-- The integer that a text writes. -/
def integerOfText (s : String) : Reading Int :=
  let (sign, digits) :=
    match Text.trimmed s.toList with
    | '-' :: r => (['-'], r)
    | '+' :: r => ([], r)
    | r => ([], r)
  match significantPart? digits with
  | none => fault .unreadableInteger
  | some cs =>
    let whole := withoutZeroFraction cs
    let plain := sign ++ (Text.withoutUnderscores? whole).getD whole
    if plain.length > digitLimit then fault .integerTooLarge
    else
      match signedInteger? plain with
      | some n => .ok n
      | none => fault .unreadableInteger

/-- The integers of a word run from the negative of this to just below it. -/
def wordBound : Int := 0x8000000000000000

/-- The integer that is a double's value, of a size that fits a word. -/
def integerOfDouble (x : Double) : Reading Int :=
  match x with
  | .nan => fault .notFinite
  | .infinite _ => fault .notFinite
  | x =>
    match x.toInt? with
    | none => fault .fractional
    | some n => if -wordBound < n ∧ n < wordBound then .ok n else fault .integerTooLarge

/-- An integer, or what a member that is no number has assigned to it, and how well it fits. -/
def integerLike (v : Value) : Reading (Bound × Fit) :=
  match v with
  | .int n => .ok (.number (.int n), .exact)
  | .bool b => .ok (.number (.int (if b then 1 else 0)), .loose)
  | .atom ⟨_, _, .number n, true⟩ => .ok (.number (.int n), .close)
  | .atom ⟨_, _, .double x, true⟩ =>
    (integerOfDouble x).map fun n => (.number (.int n), .loose)
  | .float x => (integerOfDouble x).map fun n => (.number (.int n), .loose)
  | v =>
    match writtenForm? .unreadableInteger v with
    | .error e => .error e
    | .ok (some s) => (integerOfText s).map fun n => (.number (.int n), .loose)
    | .ok none =>
      match assigned? v with
      | some a => .ok (a, .loose)
      | none => fault .notInteger

/-- A length: an integer that is not negative. -/
def length (v : Value) : Reading Nat :=
  match integerLike v with
  | .error e => .error e
  | .ok (.number (.int n), _) => if n < 0 then fault .negative else .ok n.toNat
  | .ok _ => fault .integerTooLarge

/-- The double that a text writes, with white space around it or with underscores in it. -/
def doubleOfText (s : String) : Reading Double :=
  let spaced := Double.ofText? (Text.trimmed s.toList)
  match spaced.orElse fun _ => (Text.withoutUnderscores? s.toList).bind Double.ofText? with
  | some x => .ok x
  | none => fault .unreadableNumber

/-- A double, and how well it fits. An integer fits closely; a truth value does not fit. -/
def double (v : Value) : Reading (Double × Fit) :=
  match v with
  | .float x => .ok (x, .exact)
  | .int n => .ok (.ofInt n, .close)
  | .atom ⟨_, _, .number n, true⟩ => .ok (.ofInt n, .close)
  | .atom ⟨_, _, .double x, true⟩ => .ok (x, .close)
  | v =>
    match writtenForm? .unreadableNumber v with
    | .error e => .error e
    | .ok (some s) => (doubleOfText s).map fun x => (x, .loose)
    | .ok none => fault .notNumber

/-- A bound as an integer where that fits best, else as a double; the faults of both readings. -/
def bound (v : Value) : Reading Bound :=
  let asInteger := (integerLike v).under (.name "int")
  let asDouble := (double v).under (.name "float")
  match asInteger, asDouble with
  | .ok (b, .exact), _ => .ok b
  | .ok (b, fit), .ok (x, other) =>
    if fit.worse other then .ok (.number (.double x)) else .ok b
  | .ok (b, _), .error _ => .ok b
  | .error _, .ok (x, _) => .ok (.number (.double x))
  | .error e, .error f => (both (α := Bound) (β := Bound) (.error e) (.error f)).map (·.1)

/-- The truth value that a text writes, in any case. -/
def booleanOfText (s : String) : Reading Bool :=
  let word := s.toLower
  if ["0", "f", "n", "no", "off", "false"].contains word then .ok false
  else if ["1", "t", "y", "on", "yes", "true"].contains word then .ok true
  else fault .unreadableBoolean

/-- The truth value that an integer stands for. -/
def booleanOfInteger (n : Int) : Reading Bool :=
  if n = 0 then .ok false else if n = 1 then .ok true else fault .unreadableBoolean

/-- The truth value that a double stands for. -/
def booleanOfDouble (x : Double) : Reading Bool :=
  match integerOfDouble x with
  | .ok n => booleanOfInteger n
  | .error _ => fault .notBoolean

/-- A truth value. -/
def boolean (v : Value) : Reading Bool :=
  match v with
  | .bool b => .ok b
  | .int n =>
    if -wordBound ≤ n ∧ n < wordBound then booleanOfInteger n else booleanOfDouble (.ofInt n)
  | .atom ⟨_, _, .number n, true⟩ => booleanOfInteger n
  | .atom ⟨_, _, .double x, true⟩ => booleanOfDouble x
  | .float x => booleanOfDouble x
  | v =>
    match writtenForm? .unreadableBoolean v with
    | .error e => .error e
    | .ok (some s) => booleanOfText s
    | .ok none => fault .notBoolean

/-- A pattern: one that has been read, or the text or bytes of one. -/
def pattern (v : Value) : Reading Pattern :=
  let source : Option PatternSource :=
    match v, v.asText? with
    | _, some s => some (.text s)
    | .bytes b, none => some (.bytes b)
    | _, none => none
  match v, source with
  | .pattern p, _ => .ok p
  | _, none => fault .notPattern
  | _, some source =>
    match Pattern.read? source .off with
    | .ok p => .ok p
    | .error .malformed => fault .malformedPattern
    | .error (.unusable reason) => fault (.broken reason)
    | .error .repetitionTooLarge => .error .repetitionTooLarge

end DataContract.Reading

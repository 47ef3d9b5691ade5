/-
The text of a value in messages.

* `Value.quoted` — as it would be written: strings between quotes, lists and maps with their items;
* `Value.display` — the same, but a string is itself, and a member is named or is its own value;
* `Value.configured` — a configured value in a message: members by name, all else quoted.

All fail where an integer with too many digits would have to be written.
-/
import DataContract.Value.Equality

namespace DataContract

/-- The marks that hold a sequence of written items together. -/
structure Brackets where
  opening : String
  closing : String

namespace Brackets

/-- Items between the marks, separated by commas. -/
def around (b : Brackets) (items : List String) : String :=
  b.opening ++ ", ".intercalate items ++ b.closing

end Brackets

namespace PatternOptions

/-- The names of the switches that are on, in the order they are listed in. -/
def names (o : PatternOptions) : List String :=
  [("re.TEMPLATE", o.template), ("re.IGNORECASE", o.ignoreCase), ("re.LOCALE", o.alphabets.locale),
    ("re.MULTILINE", o.multiline), ("re.DOTALL", o.dotAll), ("re.UNICODE", o.alphabets.unicode),
    ("re.VERBOSE", o.verbose), ("re.ASCII", o.alphabets.ascii)].filterMap fun (name, on) =>
      if on then some name else none

end PatternOptions

namespace PatternSource

/-- The source between quotes. -/
def quoted : PatternSource → String
  | .text s => Text.quoted s
  | .bytes b => Text.quotedBytes b

end PatternSource

namespace Pattern

/-- The pattern as it would be written; of its source the first 200 characters, and of its options
not the alphabet that every text pattern has. -/
def written (p : Pattern) : String :=
  let own : PatternOptions :=
    if p.source.isText && p.options.alphabets == ⟨false, false, true⟩ then
      { p.options with alphabets := ⟨false, false, false⟩ }
    else p.options
  let source := String.ofList (p.source.quoted.toList.take 200)
  let options := own.names
  "re.compile(" ++ source ++ (if options.isEmpty then "" else ", " ++ "|".intercalate options) ++ ")"

end Pattern

namespace CalendarDate

/-- The date as it would be written. -/
def written (d : CalendarDate) : String :=
  "datetime.date(" ++ toString d.year ++ ", " ++ toString d.month ++ ", " ++ toString d.day ++ ")"

end CalendarDate

namespace DateTime

/-- The offset as it would be written. -/
def offsetWritten (seconds : Int) : String :=
  if seconds = 0 then "datetime.timezone.utc"
  else "datetime.timezone(" ++ Calendar.durationText seconds ++ ")"

/-- The time as it would be written: seconds and microseconds only as far as they are not zero. -/
def written (t : DateTime) : String :=
  let small :=
    if t.microsecond ≠ 0 then [t.second, t.microsecond]
    else if t.second ≠ 0 then [t.second]
    else []
  let parts := [t.date.year, t.date.month, t.date.day, t.hour, t.minute] ++ small
  let zone := (t.offset.map fun s => ", tzinfo=" ++ offsetWritten s).getD ""
  "datetime.datetime(" ++ ", ".intercalate (parts.map toString) ++ zone ++ ")"

end DateTime

namespace AtomValue

/-- What is assigned to a member, as it would be written. -/
def quoted : AtomValue → Except TooManyDigits String
  | .text s => .ok (Text.quoted s)
  | .number n => decimalText n
  | .double x => .ok x.text

end AtomValue

namespace Member

/-- A member with what is assigned to it, between angle brackets. -/
def around (m : Member) (value : String) : String :=
  "<" ++ m.named ++ ": " ++ value ++ ">"

end Member

namespace Atom

/-- The member with its value, between angle brackets. -/
def quoted (a : Atom) : Except TooManyDigits String := do
  let value ← a.value.quoted
  return a.member.around value

/-- The member as text: its value if it is a text or an integer, else its name. -/
def display (a : Atom) : Except TooManyDigits String :=
  match a.isValue, a.value with
  | true, .text s => .ok s
  | true, .number n => decimalText n
  | _, _ => .ok a.named

end Atom

namespace SequenceKind

/-- Items as a tuple, which keeps a comma after a single one. -/
def tupleText : List String → String
  | [item] => "(" ++ item ++ ",)"
  | items => Brackets.around ⟨"(", ")"⟩ items

/-- Items as a sequence of the kind. -/
def written (k : SequenceKind) (items : List String) : String :=
  let plain := if k.grows then Brackets.around ⟨"[", "]"⟩ items else tupleText items
  match k.member? with
  | some m => m.around plain
  | none => plain

end SequenceKind

namespace MappingKind

/-- Entries, each a key and a value, as a map of the kind. -/
def written (k : MappingKind) (entries : List (String × String)) : String :=
  let plain := Brackets.around ⟨"\x7b", "\x7d"⟩ (entries.map fun (k, v) => k ++ ": " ++ v)
  match k with
  | .plain => plain
  | .view => "mappingproxy(" ++ plain ++ ")"
  | .member m => m.around plain
  | .ordered =>
    if entries.isEmpty then "OrderedDict()"
    else
      let pairs := entries.map fun (k, v) => "(" ++ k ++ ", " ++ v ++ ")"
      "OrderedDict(" ++ Brackets.around ⟨"[", "]"⟩ pairs ++ ")"

end MappingKind

namespace Value

/-- A value that has no parts, as it would be written. -/
def quotedAtomic : Value → Except TooManyDigits String
  | .null => .ok "None"
  | .bool b => .ok (if b then "True" else "False")
  | .int n => decimalText n
  | .float x => .ok x.text
  | .text s => .ok (Text.quoted s)
  | .atom a => a.quoted
  | .bytes b => .ok (Text.quotedBytes b)
  | .date d => .ok d.written
  | .dateTime t => .ok t.written
  | .pattern p => .ok p.written
  | .handle h => .ok h.text
  | _ => .ok ""

mutual

/-- A value as it would be written. -/
def quoted : Value → Except TooManyDigits String
  | .sequence k items => do
    let parts ← quotedItems items
    return k.written parts
  | .mapping k entries => do
    let parts ← quotedEntries entries
    return k.written parts
  | .set items => do
    let parts ← quotedItems items
    if parts.isEmpty then return "set()"
    return Brackets.around ⟨"\x7b", "\x7d"⟩ parts
  | .record model fields => do
    let parts ← quotedFields fields
    return Brackets.around ⟨model ++ "(", ")"⟩ parts
  | .null => quotedAtomic .null
  | .bool b => quotedAtomic (.bool b)
  | .int n => quotedAtomic (.int n)
  | .float x => quotedAtomic (.float x)
  | .text s => quotedAtomic (.text s)
  | .atom a => quotedAtomic (.atom a)
  | .bytes b => quotedAtomic (.bytes b)
  | .date d => quotedAtomic (.date d)
  | .dateTime t => quotedAtomic (.dateTime t)
  | .pattern p => quotedAtomic (.pattern p)
  | .handle h => quotedAtomic (.handle h)

/-- Items as they would be written. -/
def quotedItems : List Value → Except TooManyDigits (List String)
  | [] => .ok []
  | x :: xs => do
    let first ← quoted x
    let rest ← quotedItems xs
    return first :: rest

/-- Entries as they would be written. -/
def quotedEntries : List (Value × Value) → Except TooManyDigits (List (String × String))
  | [] => .ok []
  | (k, v) :: rest => do
    let key ← quoted k
    let value ← quoted v
    let others ← quotedEntries rest
    return (key, value) :: others

/-- Named fields as they would be written. -/
def quotedFields : List (String × Value) → Except TooManyDigits (List String)
  | [] => .ok []
  | (k, v) :: rest => do
    let value ← quoted v
    let others ← quotedFields rest
    return (k ++ "=" ++ value) :: others

end

/-- The text of the record of a list type. -/
def listTypeText : Value → Except TooManyDigits String
  | .record "ListOf" [("item", item)] => do
    let inner ← listTypeText item
    return "list of " ++ inner
  | .atom a => a.display
  | v => quoted v

/-- A value as text: a string is itself, a view shows what it is a view of, a record its fields, and
a member that is a list or a map its name. -/
def display : Value → Except TooManyDigits String
  | .text s => .ok s
  | .record "ListOf" fields => listTypeText (.record "ListOf" fields)
  | .record _ fields => do
    let parts ← quotedFields fields
    return " ".intercalate parts
  | .atom a => a.display
  | .dateTime t => .ok (t.iso " ")
  | .date d => .ok d.iso
  | .mapping .view entries => quoted (.mapping .plain entries)
  | v =>
    match v.asMember? with
    | some m => .ok m.named
    | none => quoted v

/-- A configured value in a message. -/
def configured (v : Value) : Except TooManyDigits String :=
  match v.asMember? with
  | some m => .ok m.named
  | none => quoted v

end Value

end DataContract

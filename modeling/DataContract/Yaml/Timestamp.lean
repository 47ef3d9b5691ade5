/-
Timestamps as YAML writes them: a date, or a date and a time of day, perhaps with its distance from
universal time.
-/
import DataContract.Value.Equality
import DataContract.Yaml.Cursor

namespace DataContract.Yaml

/-- A time of day as written; of a fraction the digits are kept. -/
structure ClockText where
  hour : Nat
  minute : Nat
  second : Nat
  fraction : List Char
  /-- Seconds ahead of universal time, if written. -/
  offset : Option Int

/-- A timestamp as written. -/
structure Timestamp where
  year : Nat
  month : Nat
  day : Nat
  /-- Whether month and day have two digits each. -/
  fullDate : Bool
  clock : Option ClockText

namespace Timestamp

/-- Between `least` and `most` digits, as many as there are, and what follows them. -/
def digits? (least most : Nat) (cs : List Char) : Option (List Char × List Char) :=
  let ds := (cs.takeWhile isAsciiDigit).take most
  if ds.length < least then none else some (ds, cs.drop ds.length)

/-- A mark, and what follows it. -/
def mark? (c : Char) (cs : List Char) : Option (List Char) :=
  match cs with
  | d :: rest => if d = c then some rest else none
  | [] => none

/-- What follows the mark between a date and a time: a letter, or blanks. -/
def afterSeparator? (cs : List Char) : Option (List Char) :=
  match cs with
  | 'T' :: rest => some rest
  | 't' :: rest => some rest
  | c :: rest => if isBlank c then some (rest.dropWhile isBlank) else none
  | [] => none

/-- The minutes of an offset, the rest of the text. -/
def offsetMinutes? (cs : List Char) : Option Nat :=
  match cs with
  | [] => some 0
  | ':' :: rest =>
    match digits? 2 2 rest with
    | some (ds, []) => some (decimalValue ds)
    | _ => none
  | _ => none

/-- An offset, the rest of the text, if there is one. -/
def offset? (cs : List Char) : Option (Option Int) :=
  match cs, cs.dropWhile isBlank with
  | [], _ => some none
  | _, ['Z'] => some (some 0)
  | _, sign :: rest =>
    if sign = '+' ∨ sign = '-' then do
      let (hours, rest) ← digits? 1 2 rest
      let minutes ← offsetMinutes? rest
      let seconds : Int := decimalValue hours * 3600 + minutes * 60
      return some (if sign = '-' then -seconds else seconds)
    else none
  | _, [] => none

/-- A time of day, the rest of the text. -/
def clock? (cs : List Char) : Option ClockText := do
  let (hour, rest) ← digits? 1 2 cs
  let (minute, rest) ← digits? 2 2 (← mark? ':' rest)
  let (second, rest) ← digits? 2 2 (← mark? ':' rest)
  let (fraction, rest) := match rest with
    | '.' :: r => (r.takeWhile isAsciiDigit, r.dropWhile isAsciiDigit)
    | r => ([], r)
  let offset ← offset? rest
  return ⟨decimalValue hour, decimalValue minute, decimalValue second, fraction, offset⟩

/-- The timestamp that a text writes. -/
def read? (cs : List Char) : Option Timestamp := do
  let (year, rest) ← digits? 4 4 cs
  let (month, rest) ← digits? 1 2 (← mark? '-' rest)
  let (day, rest) ← digits? 1 2 (← mark? '-' rest)
  let clock ←
    if rest.isEmpty then some none
    else do
      let rest ← afterSeparator? rest
      some <$> clock? rest
  return ⟨decimalValue year, decimalValue month, decimalValue day,
    month.length == 2 && day.length == 2, clock⟩

/-- Whether a text is a timestamp without being called one: a date alone has all its digits. -/
def isPlain (cs : List Char) : Bool :=
  match read? cs with
  | some t => t.fullDate || t.clock.isSome
  | none => false

/-- Microseconds of the digits after a point; those beyond the sixth do not count. -/
def microseconds (fraction : List Char) : Nat :=
  let ds := fraction.take 6
  decimalValue (ds ++ List.replicate (6 - ds.length) '0')

/-- The date or time of a timestamp, if there is one. -/
def toValue (t : Timestamp) : Except CalendarFault Value := do
  match t.clock with
  | none => return .date (← CalendarDate.ofParts t.year t.month t.day)
  | some c =>
    let offset ← match c.offset with
      | none => pure none
      | some s => some <$> DateTime.checkedOffset s
    let date ← CalendarDate.ofParts t.year t.month t.day
    return .dateTime (← DateTime.ofParts date c.hour c.minute c.second (microseconds c.fraction) offset)

end Timestamp

end DataContract.Yaml

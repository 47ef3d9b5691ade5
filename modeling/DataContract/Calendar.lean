/-
Dates and times of the proleptic Gregorian calendar.

`CalendarDate.toDays` counts the days from 1970-01-01, and `Calendar.dayAt` finds the day again, in
whatever year; `ClockReading.stamp` is the text of a moment given in seconds since then. A date, or a
time of day, exists only within its ranges, and one outside them is refused with a `CalendarFault`; a
moment whose seconds or whose year are too many for the clock is refused with a `ClockFault`.
-/
import DataContract.Number.Text

namespace DataContract

/-- A day of the calendar. -/
structure CalendarDate where
  year : Nat
  month : Nat
  day : Nat
  deriving DecidableEq, Inhabited

/-- A time of day, with the seconds by which it is ahead of universal time, if known. -/
structure DateTime where
  date : CalendarDate
  hour : Nat
  minute : Nat
  second : Nat
  microsecond : Nat
  offset : Option Int
  deriving DecidableEq, Inhabited

/-- Why there is no such date or time. -/
inductive CalendarFault where
  | year (n : Nat)
  | month
  | day
  | hour
  | minute
  | second
  | offset (seconds : Int)
  deriving DecidableEq, Inhabited

namespace Calendar

/-- Digits of a number with zeros in front up to the width. -/
def padded (width n : Nat) : String :=
  String.ofList (padZeros width (Nat.toDigits 10 n))

/-- Whether a year has a 29th of February. -/
def isLeap (year : Nat) : Bool :=
  year % 4 = 0 && (year % 100 ≠ 0 || year % 400 = 0)

/-- How many days a month has. -/
def daysIn (year month : Nat) : Nat :=
  if month = 2 then if isLeap year then 29 else 28
  else if month = 4 ∨ month = 6 ∨ month = 9 ∨ month = 11 then 30
  else 31

/-- The year, which may be any, the month and the day so many days after 1970-01-01. -/
def dayAt (days : Int) : Int × Nat × Nat :=
  let z := days + 719468
  let era := z / 146097
  let dayOfEra := z % 146097
  let yearOfEra := (dayOfEra - dayOfEra / 1460 + dayOfEra / 36524 - dayOfEra / 146096) / 365
  let dayOfYear := dayOfEra - (365 * yearOfEra + yearOfEra / 4 - yearOfEra / 100)
  let shifted := (5 * dayOfYear + 2) / 153
  let day := dayOfYear - (153 * shifted + 2) / 5 + 1
  let month := if shifted < 10 then shifted + 3 else shifted - 9
  let year := yearOfEra + era * 400 + (if month ≤ 2 then 1 else 0)
  (year, month.toNat, day.toNat)

/-- A duration in seconds as days and seconds of a day. -/
def durationText (seconds : Int) : String :=
  let days := seconds / 86400
  let rest := seconds % 86400
  let parts := (if days = 0 then [] else ["days=" ++ toString days]) ++
    (if rest = 0 then [] else ["seconds=" ++ toString rest])
  "datetime.timedelta(" ++ (if parts.isEmpty then "0" else ", ".intercalate parts) ++ ")"

end Calendar

/-- What the refusal of a date reads. -/
def CalendarFault.message : CalendarFault → String
  | .year n => "year " ++ toString n ++ " is out of range"
  | .month => "month must be in 1..12"
  | .day => "day is out of range for month"
  | .hour => "hour must be in 0..23"
  | .minute => "minute must be in 0..59"
  | .second => "second must be in 0..59"
  | .offset seconds =>
    "offset must be a timedelta strictly between -timedelta(hours=24) and timedelta(hours=24), not "
      ++ Calendar.durationText seconds ++ "."

namespace CalendarDate

/-- The day of these numbers, if there is one. -/
def ofParts (year month day : Nat) : Except CalendarFault CalendarDate :=
  if year = 0 ∨ 9999 < year then .error (.year year)
  else if month = 0 ∨ 12 < month then .error .month
  else if day = 0 ∨ Calendar.daysIn year month < day then .error .day
  else .ok ⟨year, month, day⟩

/-- Days from 1970-01-01 to the date, counted in eras of 400 years that begin in March. -/
def toDays (d : CalendarDate) : Int :=
  let y : Int := if d.month ≤ 2 then (d.year : Int) - 1 else d.year
  let era := y / 400
  let yearOfEra := y % 400
  let shifted : Int := ((d.month : Int) + 9) % 12
  let dayOfYear := (153 * shifted + 2) / 5 + (d.day : Int) - 1
  let dayOfEra := yearOfEra * 365 + yearOfEra / 4 - yearOfEra / 100 + dayOfYear
  era * 146097 + dayOfEra - 719468

/-- The date as `2001-12-14`. -/
def iso (d : CalendarDate) : String :=
  Calendar.padded 4 d.year ++ "-" ++ Calendar.padded 2 d.month ++ "-" ++ Calendar.padded 2 d.day

end CalendarDate

namespace DateTime

/-- The time of these numbers, if there is one. -/
def ofParts (date : CalendarDate) (hour minute second microsecond : Nat) (offset : Option Int) :
    Except CalendarFault DateTime :=
  if 23 < hour then .error .hour
  else if 59 < minute then .error .minute
  else if 59 < second then .error .second
  else .ok ⟨date, hour, minute, second, microsecond, offset⟩

/-- An offset from universal time, less than a day either way. -/
def checkedOffset (seconds : Int) : Except CalendarFault Int :=
  if seconds.natAbs < 86400 then .ok seconds else .error (.offset seconds)

/-- Microseconds from 1970-01-01 by its own clock. -/
def localMicroseconds (t : DateTime) : Int :=
  (t.date.toDays * 86400 + (t.hour * 3600 + t.minute * 60 + t.second : Nat)) * 1000000 +
    t.microsecond

/-- Whether two times are the same moment; one with and one without an offset never are. -/
def sameMoment (a b : DateTime) : Bool :=
  match a.offset, b.offset with
  | none, none => a.localMicroseconds = b.localMicroseconds
  | some x, some y =>
    a.localMicroseconds - x * 1000000 = b.localMicroseconds - y * 1000000
  | _, _ => false

/-- An offset as `+01:00`, with seconds only if there are any. -/
def offsetText (seconds : Int) : String :=
  let n := seconds.natAbs
  (if seconds < 0 then "-" else "+") ++ Calendar.padded 2 (n / 3600) ++ ":" ++
    Calendar.padded 2 (n / 60 % 60) ++
    (if n % 60 = 0 then "" else ":" ++ Calendar.padded 2 (n % 60))

/-- The time as `2001-12-14T21:59:43.100000-05:00`, with the separator given. -/
def iso (separator : String) (t : DateTime) : String :=
  t.date.iso ++ separator ++ Calendar.padded 2 t.hour ++ ":" ++ Calendar.padded 2 t.minute ++ ":" ++
    Calendar.padded 2 t.second ++
    (if t.microsecond = 0 then "" else "." ++ Calendar.padded 6 t.microsecond) ++
    (t.offset.map offsetText).getD ""

end DateTime

/-- A moment of the clock in seconds and milliseconds since 1970-01-01 of universal time. -/
structure ClockReading where
  seconds : Int
  milliseconds : Nat
  deriving DecidableEq, Inhabited

/-- Why a moment of the clock cannot be shown. -/
inductive ClockFault where
  /-- The seconds do not fit a word. -/
  | secondsOutOfRange
  /-- The year, counted from 1900, does not fit half a word. -/
  | yearOutOfRange
  /-- The year itself does not. -/
  | yearTooLarge
  deriving DecidableEq, Inhabited

/-- What the refusal of a moment reads. -/
def ClockFault.message : ClockFault → String
  | .secondsOutOfRange => "timestamp out of range for platform time_t"
  | .yearOutOfRange => "[Errno 75] Value too large for defined data type"
  | .yearTooLarge => "signed integer is greater than maximum"

namespace ClockReading

/-- The year that the moment is in. -/
def year (c : ClockReading) : Int :=
  (Calendar.dayAt (c.seconds / 86400)).1

/-- The moment as log lines give it: `2000-02-29 00:00:00,005`. -/
def stamp (c : ClockReading) : String :=
  let (year, month, day) := Calendar.dayAt (c.seconds / 86400)
  let inDay := (c.seconds % 86400).toNat
  toString year ++ "-" ++ Calendar.padded 2 month ++ "-" ++ Calendar.padded 2 day ++ " " ++
    Calendar.padded 2 (inDay / 3600) ++ ":" ++ Calendar.padded 2 (inDay / 60 % 60) ++ ":" ++
    Calendar.padded 2 (inDay % 60) ++ "," ++ Calendar.padded 3 c.milliseconds

/-- Why the moment cannot be shown, if it cannot. -/
def fault? (c : ClockReading) : Option ClockFault :=
  if c.seconds < -0x8000000000000000 ∨ 0x8000000000000000 ≤ c.seconds then some .secondsOutOfRange
  else if c.year - 1900 < -0x80000000 ∨ 0x80000000 ≤ c.year - 1900 then some .yearOutOfRange
  else if 0x80000000 ≤ c.year then some .yearTooLarge
  else none

/-- The moment as it is shown. -/
def shown (c : ClockReading) : Except ClockFault String :=
  match c.fault? with
  | some fault => .error fault
  | none => .ok c.stamp

end ClockReading

end DataContract

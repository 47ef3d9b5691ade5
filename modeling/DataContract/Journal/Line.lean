/-
The lines that records of the log are written as.

A record holds a template and its arguments, and on demand extra entries. A plain line shows the
time, the logger, the level and the message; a JSON line has them as entries, with the extra ones
put over them. A record has no line where its time cannot be shown, its template not be filled, or its
extra entries not be written.
-/
import DataContract.Journal.Level
import DataContract.Journal.Template.Filling
import DataContract.JsonText.Writer
import DataContract.Value.Entries

namespace DataContract

/-- Something to be logged. -/
structure LogRecord where
  time : ClockReading
  logger : String
  level : Int
  template : String
  arguments : List Value
  extra : Option Value
  deriving Inhabited

/-- The forms of a line. -/
inductive LineFormat where
  | plain
  | json
  deriving DecidableEq, Inhabited

/-- Why a record has no line. -/
inductive LineFault where
  | clock (fault : ClockFault)
  | template (fault : TemplateFault)
  | entries (fault : EntriesFault)
  | json (fault : JsonWriteFault)
  deriving DecidableEq, Inhabited

/-- What the lack of a line reads. -/
def LineFault.message : LineFault → String
  | .clock fault => fault.message
  | .template fault => fault.message
  | .entries fault => fault.message
  | .json fault => fault.message

/-- The record of an entry, whose message stands for itself. -/
def LogEntry.record (e : LogEntry) (time : ClockReading) : LogRecord :=
  let extra := e.fields.map fun fs => Value.map (fs.map fun (name, v) => (.text name, v))
  ⟨time, e.logger, e.level, e.message, [], extra⟩

namespace LogRecord

/-- The message: the template with its arguments. -/
def message (r : LogRecord) : Except LineFault String :=
  (Template.fill r.template r.arguments).mapError LineFault.template

/-- The time as it is shown. -/
def timestamp (r : LogRecord) : Except LineFault String :=
  r.time.shown.mapError LineFault.clock

/-- A record as a plain line. -/
def plainLine (r : LogRecord) : Except LineFault String := do
  let message ← r.message
  let timestamp ← r.timestamp
  return timestamp ++ " - " ++ r.logger ++ " - " ++ LogLevel.textOf r.level ++ " - " ++ message

/-- The entries that every JSON line has. -/
def entries (r : LogRecord) (timestamp message : String) : List (Value × Value) :=
  [(.text "timestamp", .text timestamp), (.text "level", .text (LogLevel.textOf r.level)),
    (.text "logger", .text r.logger), (.text "message", .text message)]

/-- The extra entries of a record. -/
def extraEntries (r : LogRecord) : Except LineFault (List (Value × Value)) :=
  match r.extra with
  | some v => v.entriesIn.mapError LineFault.entries
  | none => .ok []

/-- A record as a JSON line. -/
def jsonLine (r : LogRecord) : Except LineFault String := do
  let timestamp ← r.timestamp
  let message ← r.message
  let extra ← r.extraEntries
  (JsonText.line (.map (Value.overlaid (r.entries timestamp message) extra))).mapError LineFault.json

/-- A record as a line in a format. -/
def lineIn (r : LogRecord) : LineFormat → Except LineFault String
  | .plain => r.plainLine
  | .json => r.jsonLine

end LogRecord

end DataContract

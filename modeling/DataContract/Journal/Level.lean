/-
Levels of the log by their names.

* `LogLevel.textOf` — how lines name a level, also one that has no name;
* `LogLevel.numberOf?` — the level that a name, in capitals, stands for.
-/
import DataContract.Journal.Basic

namespace DataContract.LogLevel

/-- The levels that have names. -/
def all : List LogLevel :=
  [.debug, .info, .warning, .error, .critical]

/-- The name of a level. -/
def name : LogLevel → String
  | .debug => "DEBUG"
  | .info => "INFO"
  | .warning => "WARNING"
  | .error => "ERROR"
  | .critical => "CRITICAL"

/-- The name of the absence of a level, whose number is zero. -/
def unsetName : String := "NOTSET"

/-- A level as lines name it. -/
def textOf (n : Int) : String :=
  if n = 0 then unsetName
  else
    match all.find? fun l => (l.number : Int) = n with
    | some l => l.name
    | none => "Level " ++ toString n

/-- Short or other names of levels. -/
def aliases : List (String × LogLevel) :=
  [("WARN", .warning), ("FATAL", .critical)]

/-- The number that a name stands for. -/
def numberOf? (s : String) : Option Int :=
  if s = unsetName then some 0
  else
    match all.find? fun l => l.name = s, aliases.find? fun (a, _) => a = s with
    | some l, _ => some l.number
    | none, some (_, l) => some l.number
    | none, none => none

/-- The capital of a character as far as names of levels go: besides the ASCII letters two more have
capitals that these names are spelt with. -/
def capital (c : Char) : Char :=
  if c = 'ı' then 'I' else if c = 'ſ' then 'S' else c.toUpper

/-- The number of the level that a text names in any case; that of `info` if it names none. -/
def named (s : String) : Int :=
  (numberOf? (s.map capital)).getD info.number

end DataContract.LogLevel

/-
Where records of the log go.

A logger has a level, below which records are dropped, and outlets that write the others; a record
also goes to the outlets of the loggers that its own lies below. An outlet writes to the console or to
a file. A file that would grow beyond its limit is moved aside first, and so are those moved aside
before, up to a number of them.

* `Logging.configure` — gives the loggers of the library's packages a level and outlets: one to the
  console, and on demand one to a file;
* `Logging.write` — writes a record where it belongs.
-/
import DataContract.Files.Tree
import DataContract.Journal.Action
import DataContract.Journal.Line

namespace DataContract

/-- Where records are written to. -/
inductive Outlet where
  | console (format : LineFormat)
  /-- A file under names, with a limit on its size and the number of those kept aside. -/
  | file (names : List String) (limit : Int) (kept : Nat)
  deriving DecidableEq, Inhabited

/-- The form of an outlet's lines: a file has JSON lines. -/
def Outlet.format : Outlet → LineFormat
  | .console format => format
  | .file _ _ _ => .json

/-- An outlet that has been made. One that is closed opens its file anew when it writes again. -/
structure MadeOutlet where
  outlet : Outlet
  isClosed : Bool
  deriving DecidableEq, Inhabited

/-- Something that records are written to by its name. -/
structure Logger where
  name : String
  /-- The least level that is written; zero for none of its own. -/
  level : Int
  /-- Its outlets, each by its place among those that have been made. -/
  outlets : List Nat
  deriving DecidableEq, Inhabited

/-- The loggers of which something has been said, the outlets made for them, the files that these
write to, and what they wrote to the console. -/
structure Logging where
  loggers : List Logger
  made : List MadeOutlet
  files : FileTree
  console : String
  deriving Inhabited

/-- What may be given as the directory of the log file. -/
inductive LogDirectory where
  | path (p : Path)
  | value (v : Value)
  deriving Inhabited

/-- How the log is to be written. -/
structure LoggingOptions where
  /-- The level, by name or number. -/
  level : Value
  /-- The directory of the log file; no file if it counts as false. -/
  directory : LogDirectory
  /-- The form of lines on the console. -/
  console : LineFormat
  limit : Int
  kept : Int
  deriving Inhabited

/-- Why the log cannot be written as it is to be. -/
inductive LoggingFault where
  | file (fault : FileFault)
  /-- The directory is no path. -/
  | notPath (directory : Value)
  /-- The level is neither a text nor an integer. -/
  | notLevel (level : Value)
  deriving Inhabited

/-- What the refusal reads. -/
def LoggingFault.message : LoggingFault → String
  | .file fault => fault.message
  | .notPath (.bytes _) =>
    "argument should be a str object or an os.PathLike object returning str, not <class 'bytes'>"
  | .notPath directory =>
    "expected str, bytes or os.PathLike object, not " ++ directory.qualifiedTypeName
  | .notLevel level =>
    "Level not an integer or a valid string: " ++ level.quoted.toOption.getD ""

/-- Why an entry with structured fields is not written. -/
inductive FieldsFault where
  /-- A field bears the name of one of the entry's own parts. -/
  | taken (name : String)
  | tooManyDigits
  deriving DecidableEq, Inhabited

/-- What the refusal reads. -/
def FieldsFault.message : FieldsFault → String
  | .taken name => "log_with_fields() got multiple values for argument " ++ Text.quoted name
  | .tooManyDigits => TooManyDigits.message

/-- How the log is written where nothing is said. -/
def LoggingOptions.default : LoggingOptions :=
  ⟨.text LogLevel.info.name, .value .null, .plain, 10485760, 5⟩

namespace FileTree

/-- The names of the file that is kept aside as the `i`th. -/
def aside (names : List String) (i : Nat) : List String :=
  names.dropLast ++ [names.getLast?.getD "" ++ "." ++ toString i]

/-- Moves a file aside as the first, those moved before being counted up; the last one is dropped. -/
def rollOver (t : FileTree) (names : List String) (kept : Nat) : FileTree :=
  if kept = 0 then t
  else
    let shifted := (List.range (kept - 1)).reverse.foldl
      (fun t i => t.move (aside names (i + 1)) (aside names (i + 2))) t
    (shifted.erase (aside names 1)).move names (aside names 1)

/-- How many bytes the file under names has. -/
def sizeOf (t : FileTree) (names : List String) : Nat :=
  match t.entry? names with
  | some (.file content) => content.length
  | _ => 0

/-- Writes a line to a file, which is moved aside if it would reach the limit; a limit that is not
positive is none. -/
def appendLine (t : FileTree) (names : List String) (limit : Int) (kept : Nat) (line : String) :
    FileTree :=
  let t := if 0 < limit ∧ limit ≤ t.sizeOf names + line.length + 1 then t.rollOver names kept else t
  t.append names (Utf8.encode (line ++ "\n"))

end FileTree

namespace Logging

/-- The loggers of the library's packages. -/
def packageNames : List String :=
  ["contracts", "middleware", "models", "common"]

/-- The logger that all others lie below. -/
def rootName : String := "root"

/-- Files, with a log that nothing has been said about. -/
def ofFiles (files : FileTree) : Logging :=
  ⟨[], [], files, ""⟩

/-- The logger with a name. Where nothing has been said of it, it has no outlets and no level, but that
of a warning for the one that all others lie below. -/
def logger (g : Logging) (name : String) : Logger :=
  (g.loggers.find? (·.name = name)).getD
    ⟨name, if name = rootName then LogLevel.warning.number else 0, []⟩

/-- Changes the logger with a name. -/
def update (g : Logging) (name : String) (f : Logger → Logger) : Logging :=
  let loggers :=
    if g.loggers.any (·.name = name) then g.loggers.map fun l => if l.name = name then f l else l
    else g.loggers ++ [f (g.logger name)]
  { g with loggers }

/-- A logger and those that it lies below, from the nearest on. -/
def lineage (g : Logging) (name : String) : List Logger :=
  let parts := name.splitOn "."
  let names := (List.range parts.length).reverse.map fun i => ".".intercalate (parts.take (i + 1))
  (names.filter (· ≠ rootName) ++ [rootName]).map g.logger

/-- The least level that a logger writes: its own or, if it has none, the next that there is. -/
def levelOf (g : Logging) (name : String) : Int :=
  (((g.lineage name).find? (·.level ≠ 0)).map (·.level)).getD 0

/-- Whether a logger writes records of a level. -/
def isEnabled (g : Logging) (name : String) (level : Int) : Bool :=
  0 < level && g.levelOf name ≤ level

/-- The outlets that records of a logger go to. -/
def outletsFor (g : Logging) (name : String) : List Outlet :=
  ((g.lineage name).flatMap (·.outlets)).filterMap fun i => (g.made[i]?).map (·.outlet)

/-- Writes a record to an outlet; one that has no line is dropped. -/
def writeTo (r : LogRecord) (g : Logging) (o : Outlet) : Logging :=
  match r.lineIn o.format, o with
  | .error _, _ => g
  | .ok line, .console _ => { g with console := g.console ++ line ++ "\n" }
  | .ok line, .file names limit kept =>
    { g with files := g.files.appendLine names limit kept line }

/-- Writes a record to the outlets for its logger, if that writes its level. -/
def write (g : Logging) (r : LogRecord) : Logging :=
  if g.isEnabled r.logger r.level then
    (g.outletsFor r.logger).foldl (writeTo r) g
  else g

/-- Writes entries in order, at a time. -/
def writeEntries (g : Logging) (time : ClockReading) (entries : List LogEntry) : Logging :=
  entries.foldl (fun g e => g.write (e.record time)) g

/-- The number of the level that a value asks for. -/
def levelIn (v : Value) : Except LoggingFault Int :=
  match v.asText?, v.asInteger? with
  | some s, _ => .ok (LogLevel.named s)
  | none, some n => .ok n
  | none, none => .error (.notLevel v)

/-- The name of the log file in its directory. -/
def fileName : String := "perimeter.log"

/-- The path of the directory that the log file is to be in, if it is to be in one. -/
def directoryOf : LogDirectory → Except LoggingFault (Option Path)
  | .path p => .ok (some p)
  | .value v =>
    match v.truthy, v.asText? with
    | false, _ => .ok none
    | true, some s => .ok (some (Path.ofText s))
    | true, none => .error (.notPath v)

/-- Makes a directory. -/
def makeDirectory (directory : Path) : Action FileTree FileFault Unit := fun files =>
  let (made, done) := files.makeDirectory directory
  (made, .of done)

/-- Opens the log file in a directory, which is made if it is missing; the names of the file. -/
def openFile (directory : Path) : Action FileTree FileFault (List String) := do
  makeDirectory directory
  let file := directory.join (Path.ofText fileName)
  let files ← Action.state
  if Path.textLimit < file.text.utf8ByteSize then Action.fail (.tooLong file.text)
  else
    match files.entry? file.settled with
    | some .directory => Action.fail (.isDirectory file.text)
    | _ =>
      Action.replace (files.append file.settled [])
      return file.settled

/-- The outlets that options ask for, their files being opened. -/
def outletsOf (o : LoggingOptions) : Action FileTree LoggingFault (List Outlet) := do
  match ← Action.of (directoryOf o.directory) with
  | none => return [.console o.console]
  | some directory =>
    let names ← Action.mapError LoggingFault.file (openFile directory)
    return [.console o.console, .file names o.limit o.kept.toNat]

/-- Takes an outlet off a logger and closes it. -/
def takeOff (name : String) (g : Logging) (i : Nat) : Logging :=
  { g with made := g.made.modify i fun m => { m with isClosed := true } }.update name
    fun l => { l with outlets := l.outlets.erase i }

/-- Puts an outlet on a logger, unless it is there. -/
def putOn (name : String) (g : Logging) (i : Nat) : Logging :=
  g.update name fun l => if i ∈ l.outlets then l else { l with outlets := l.outlets ++ [i] }

/-- Gives a logger other outlets, and a level. -/
def reconfigure (level : Value) (outlets : List Nat) (name : String) :
    Action Logging LoggingFault Unit := do
  Action.update fun g => (g.logger name).outlets.foldl (takeOff name) g
  Action.update fun g => outlets.foldl (putOn name) g
  let level ← Action.of (levelIn level)
  Action.update fun g => g.update name fun l => { l with level }

/-- Gives loggers one after the other the same outlets, and a level. -/
def reconfigureAll (level : Value) (outlets : List Nat) :
    List String → Action Logging LoggingFault Unit
  | [] => return ()
  | name :: rest => do
    reconfigure level outlets name
    reconfigureAll level outlets rest

/-- Gives the loggers of the packages the outlets and the level that options ask for. The outlets are
made first. -/
def configure (o : LoggingOptions) : Action Logging LoggingFault Unit := do
  let outlets ← Action.zoom (·.files) (fun g files => { g with files }) (outletsOf o)
  let g ← Action.state
  Action.replace { g with made := g.made ++ outlets.map (⟨·, false⟩) }
  reconfigureAll o.level (List.range' g.made.length outlets.length) packageNames

/-- The names of an entry's own parts. -/
def ownParts : List String := ["logger", "level", "message"]

/-- Writes an entry with structured fields, if its logger writes its level. -/
def writeFields (time : ClockReading) (logger : String) (level : Int) (message : String)
    (fields : List (String × Value)) : Action Logging FieldsFault Unit := do
  let g ← Action.state
  match fields.find? fun (name, _) => ownParts.contains name with
  | some (name, _) => Action.fail (.taken name)
  | none =>
    if g.isEnabled logger level then
      let e ← Action.of ((LogEntry.structured logger level message fields).mapError
        fun _ => .tooManyDigits)
      Action.replace (g.write (e.record time))

end Logging

end DataContract

/-
The command that validates the data of a JSON file against a contract of a definition file.

* `Command.run` — all that the command does, as a function of its arguments, the time, and what it
  runs in: what it prints, the files it leaves, and how it ends.
-/
import DataContract.Command.Request
import DataContract.Definition.File
import DataContract.Journal.Logbook
import DataContract.Registry.Owner
import DataContract.Settings.Loading

namespace DataContract

/-- Why the command breaks off. -/
inductive CommandFault where
  | settings (fault : SettingsFault)
  | logging (fault : LoggingFault)
  | definition (fault : DefinitionFileFault)
  /-- The data file is no text, or its path is none. -/
  | data (fault : TextFileFault)
  /-- An integer in the data file has too many digits. -/
  | tooManyDigits (count : Nat)
  | check (fault : CheckFault)
  deriving Inhabited

/-- What the command reads as it breaks off. -/
def CommandFault.message : CommandFault → String
  | .settings fault => fault.message
  | .logging fault => fault.message
  | .definition fault => fault.message
  | .data fault => fault.message
  | .tooManyDigits count => TooManyDigits.readMessage count
  | .check fault => fault.message

/-- How the command ends: with an exit code, told how it is used, or broken off. -/
inductive CommandEnding where
  | finished (code : Nat)
  | usage (code : Nat)
  | broken (fault : CommandFault)
  deriving Inhabited

/-- What comes of the command. -/
structure CommandOutcome where
  printed : String
  /-- What is printed about errors, with the lines of the log. -/
  errors : String
  files : FileTree
  ending : CommandEnding
  deriving Inhabited

namespace Command

/-- The exit codes: all is well, the data is not valid, or the command cannot do its work. -/
def exitOk : Nat := 0

@[inherit_doc exitOk]
def exitInvalid : Nat := 1

@[inherit_doc exitOk]
def exitUsage : Nat := 2

/-- The outcome that prints nothing more than the log has. -/
def ended (g : Logging) (ending : CommandEnding) : CommandOutcome :=
  ⟨"", g.console, g.files, ending⟩

/-- The outcome of a failure that the command tells about. -/
def failed (g : Logging) (message : String) : CommandOutcome :=
  ⟨"", g.console ++ message ++ "\n", g.files, .finished exitUsage⟩

/-- A violation as a map. -/
def violationMap (v : Violation) : Value :=
  .map [(.text "field", .text v.field), (.text "error", .text v.error),
    (.text "path", .list (v.path.map .text))]

/-- Violations as they are printed. -/
def shown (r : CommandRequest) (violations : List Violation) : String :=
  if r.json then ((JsonText.block 2 (.list (violations.map violationMap))).toOption).getD ""
  else report violations

/-- The outcome of a validation. -/
def validated (g : Logging) (r : CommandRequest) (result : ValidationResult) : CommandOutcome :=
  if result.valid then
    ⟨"Validation PASSED for " ++ r.contract ++ "\n", g.console, g.files, .finished exitOk⟩
  else
    ⟨"Validation FAILED for " ++ r.contract ++ "\n" ++ shown r result.violations ++ "\n", g.console,
      g.files, .finished (if r.strict then exitInvalid else exitOk)⟩

/-- Validates the data that a text writes. -/
def validateText (time : ClockReading) (g : Logging) (r : CommandRequest) (registry : Registry)
    (content : String) : CommandOutcome :=
  match JsonText.read content with
  | .error (.tooManyDigits count) => ended g (.broken (.tooManyDigits count))
  | .error f => failed g ("Error loading file: " ++ JsonText.refusal content f)
  | .ok data =>
    let checked := validate (.registry registry) (.text r.contract) data
    let g := g.writeEntries time checked.notes
    match checked.result with
    | .error fault => ended g (.broken (.check fault))
    | .ok result => validated g r result

/-- Validates the data file against the contracts of a registry. -/
def validateFile (time : ClockReading) (g : Logging) (r : CommandRequest) (registry : Registry) :
    CommandOutcome :=
  match g.files.readTextAt r.file with
  | .error (.file fault) =>
    if fault.isOfFile then failed g ("Error loading file: " ++ fault.message)
    else ended g (.broken (.data (.file fault)))
  | .error fault => ended g (.broken (.data fault))
  | .ok content => validateText time g r registry content

/-- What the command tells about a definition file that is not loaded: that it cannot be opened, or
that its definitions are malformed. -/
def told? : DefinitionFileFault → Option String
  | .notFound path => some (definitionNotFound path)
  | .file (.file fault) => if fault.isOfFile then some fault.message else none
  | .load (.malformed m) => some m.message
  | _ => none

/-- Validates with the definition file at a path. -/
def validateWith (time : ClockReading) (e : Environment) (g : Logging) (r : CommandRequest)
    (path : String) : CommandOutcome :=
  let (registry, loaded) := Definition.loadFile ⟨e, g.files⟩ path .empty
  let g := g.writeEntries time loaded.notes
  match loaded.result with
  | .ok _ => validateFile time g r registry
  | .error fault =>
    match told? fault with
    | some message => failed g ("Error loading contracts: " ++ message)
    | none => ended g (.broken (.definition fault))

/-- The definition file that a request asks for, or else the settings. -/
def contractsPath (r : CommandRequest) (settings : Settings) : Option String :=
  [r.contracts, settings.contractsPath].findSome? fun path => path.filter (· ≠ "")

/-- How the settings want the log to be written. -/
def loggingOptions (settings : Settings) : LoggingOptions :=
  { LoggingOptions.default with
    level := .text settings.logLevel, directory := .value (Settings.textOrNull settings.logDir) }

/-- Does what a request asks for, with settings. -/
def fulfil (time : ClockReading) (s : Surroundings) (r : CommandRequest) (settings : Settings) :
    CommandOutcome :=
  let (g, configured) := Logging.configure (loggingOptions settings) (.ofFiles s.files)
  match configured.result, contractsPath r settings with
  | .error fault, _ => ended g (.broken (.logging fault))
  | .ok _, none => failed g "Error: no contract file given (--contracts or PERIMETER_CONTRACTS)"
  | .ok _, some path => validateWith time s.environment g r path

/-- Runs the command. -/
def run (time : ClockReading) (s : Surroundings) (arguments : List String) : CommandOutcome :=
  match CommandRequest.ofArguments arguments with
  | .error fault => ⟨"", refusal fault, s.files, .usage exitUsage⟩
  | .ok none => ⟨help, "", s.files, .usage exitOk⟩
  | .ok (some r) =>
    match (Settings.load s none).result with
    | .error fault => ⟨"", "", s.files, .broken (.settings fault)⟩
    | .ok settings => fulfil time s r settings

end Command

end DataContract

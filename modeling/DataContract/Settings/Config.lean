/-
Configuration files: YAML files of a directory, read by their names.

Environment variables are put into a file before it is read. The first reading that succeeds is kept,
whatever becomes of the file; a file that is missing counts as an empty map and is looked for again.
A name that is too long to be looked for is refused.
-/
import DataContract.Environment
import DataContract.Files.Tree
import DataContract.Journal.Action
import DataContract.Yaml.Basic

namespace DataContract

/-- What a program runs in: environment variables and files. -/
structure Surroundings where
  environment : Environment
  files : FileTree
  deriving Inhabited

/-- Why a configuration file cannot be read. -/
inductive ConfigFault where
  | file (fault : TextFileFault)
  | yaml (fault : YamlFault)
  deriving DecidableEq, Inhabited

/-- What the refusal of a configuration file reads. -/
def ConfigFault.message : ConfigFault → String
  | .file fault => fault.message
  | .yaml fault => fault.message

/-- A directory of configuration files, and what has been read of them. -/
structure Config where
  directory : Path
  loaded : List (String × Value)
  deriving Inhabited

namespace Config

/-- The directory where configuration files are by default. -/
def defaultDirectory : String := "config"

/-- The configuration files of a directory, none of them read yet. -/
def ofDirectory (directory : String) : Config :=
  ⟨Path.ofText directory, []⟩

/-- The path of the file with a name and an ending. -/
def path (c : Config) (name ending : String) : Path :=
  c.directory.join (Path.ofText (name ++ ending))

/-- The endings of the files, in the order they are looked for. -/
def endings : List String := [".yaml", ".yml"]

/-- The path of the file with a name, if there is one; a name may be too long to be looked for. -/
def find? (c : Config) (files : FileTree) (name : String) : Except FileFault (Option Path) :=
  files.first? (endings.map (c.path name))

/-- The value that a file writes once the environment is put into it. -/
def contentOf (s : Surroundings) (p : Path) : Except ConfigFault Value :=
  match s.files.readText p p.text with
  | .error e => .error (.file e)
  | .ok content =>
    match Yaml.read (s.environment.substitute content) with
    | .error e => .error (.yaml e)
    | .ok v => .ok (if v.truthy then v else .map [])

/-- What the file with a name comes to, if there is one. -/
def found? (c : Config) (s : Surroundings) (name : String) : Except ConfigFault (Option Value) :=
  match c.find? s.files name with
  | .error e => .error (.file (.file e))
  | .ok none => .ok none
  | .ok (some p) => (contentOf s p).map some

/-- Loads the file with a name. -/
def load (s : Surroundings) (name : String) : Action Config ConfigFault Value := do
  let c ← Action.state
  match c.loaded.find? (·.1 = name) with
  | some (_, v) => return v
  | none =>
    match ← Action.of (c.found? s name) with
    | none => return .map []
    | some v =>
      Action.replace { c with loaded := (name, v) :: c.loaded }
      return v

/-- Follows keys into maps; the default where there is no map to look into. -/
def follow (default : Value) (v : Value) : List String → Value
  | [] => match v with
    | .null => default
    | v => v
  | key :: rest =>
    match v with
    | .mapping .plain es => follow default ((Value.lookup? (.text key) es).getD .null) rest
    | _ => default

/-- The value under a key with dots: the name of a file, and keys into it. -/
def get (s : Surroundings) (key : String) (default : Value) : Action Config ConfigFault Value := do
  match key.splitOn "." with
  | [] => return default
  | name :: keys =>
    let v ← load s name
    return follow default v keys

end Config

end DataContract

/-
Settings from the configuration directory and the environment.

The section of the settings file gives the values; a variable that is set and not empty overrides
the one under its key. The directory is the one asked for or, if that is empty, the one that a
variable names, else the common one.
-/
import DataContract.Settings.Basic
import DataContract.Settings.Config

namespace DataContract

/-- Why settings cannot be loaded. -/
inductive SettingsFault where
  | config (fault : ConfigFault)
  | entries (fault : EntriesFault)
  | keyNotText
  | model (fault : ModelFault)
  | repetitionTooLarge
  deriving DecidableEq, Inhabited

namespace SettingsFault

/-- What the refusal reads. -/
def message : SettingsFault → String
  | .config fault => fault.message
  | .entries fault => fault.message
  | .keyNotText => "keywords must be strings"
  | .model fault => fault.headline
  | .repetitionTooLarge => repetitionTooLargeText

end SettingsFault

namespace Settings

/-- The entries of a section; none if it is empty. -/
def entriesOf (part : Value) : Except SettingsFault (List (Value × Value)) :=
  if part.truthy then part.entriesIn.mapError SettingsFault.entries else .ok []

/-- Entries with what the environment says under the keys of the settings. -/
def overridden (e : Environment) (es : List (Value × Value)) : List (Value × Value) :=
  SettingKey.all.foldl (fun es key =>
    match e.get? key.environmentName with
    | some raw => if raw = "" then es else Value.insert es (.text key.name) (.text raw)
    | none => es) es

/-- Settings of entries, whose keys must be texts. -/
def ofEntries (es : List (Value × Value)) : Except SettingsFault Settings :=
  if !es.all fun e => e.1.asText?.isSome then .error .keyNotText
  else
    match Reading.settingsOf es with
    | .ok s => .ok s
    | .error (.faults fs) => .error (.model ⟨"Settings", fs⟩)
    | .error .repetitionTooLarge => .error .repetitionTooLarge

/-- The variable that names the configuration directory. -/
def directoryVariable : String := "PERIMETER_CONFIG_DIR"

/-- The name of the file of settings, and of the section in it that they stand in. -/
def fileName : String := "perimeter"

/-- The directory that settings are loaded from. -/
def directory (e : Environment) (asked : Option String) : String :=
  match asked with
  | some d => if d = "" then fallback else d
  | none => fallback
where
  /-- The directory where none is asked for. -/
  fallback : String := (e.get? directoryVariable).getD Config.defaultDirectory

/-- The settings as a map, in a message. -/
def shown (s : Settings) : String :=
  ((Value.map (s.fields.map fun (k, v) => (.text k, v))).quoted).toOption.getD ""

/-- Loads settings. -/
def load (s : Surroundings) (asked : Option String) : Noted SettingsFault Settings := do
  let d := directory s.environment asked
  let (_, found) := Config.get s (fileName ++ "." ++ fileName) (.map []) (Config.ofDirectory d)
  let part ← found.mapError SettingsFault.config
  let es ← Noted.of (entriesOf part)
  let settings ← Noted.of (ofEntries (overridden s.environment es))
  Noted.note (.plain .settings .debug ("Loaded settings from " ++ d ++ ": " ++ settings.shown))
  return settings

/-- The settings of a running program: loaded when they are first asked for, and kept. -/
def current (s : Surroundings) : Action (Option Settings) SettingsFault Settings := do
  match ← Action.state with
  | some kept => return kept
  | none =>
    let loaded ← Action.noted (load s none)
    Action.replace (some loaded)
    return loaded

end Settings

end DataContract

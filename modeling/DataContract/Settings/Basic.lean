/-
Settings: how guards decide, how much is logged and where, and where contracts are read from.
-/
import DataContract.Reading.Model

namespace DataContract

/-- The settings of a running program. -/
structure Settings where
  guardStrict : Bool
  logLevel : String
  logDir : Option String
  contractsPath : Option String
  deriving DecidableEq, Inhabited

/-- The keys of the settings. -/
inductive SettingKey where
  | guardStrict
  | logLevel
  | logDir
  | contractsPath
  deriving DecidableEq, Inhabited

namespace SettingKey

/-- All keys, in order. -/
def all : List SettingKey :=
  [.guardStrict, .logLevel, .logDir, .contractsPath]

/-- How a key is written in a file. -/
def name : SettingKey → String
  | .guardStrict => "guard_strict"
  | .logLevel => "log_level"
  | .logDir => "log_dir"
  | .contractsPath => "contracts_path"

/-- The environment variable that overrides what a file says under a key. -/
def environmentName : SettingKey → String
  | .guardStrict => "PERIMETER_GUARD_STRICT"
  | .logLevel => "PERIMETER_LOG_LEVEL"
  | .logDir => "PERIMETER_LOG_DIR"
  | .contractsPath => "PERIMETER_CONTRACTS"

end SettingKey

namespace Settings

/-- What holds where nothing is said. -/
def default : Settings :=
  ⟨true, "INFO", none, none⟩

/-- A text or null as a value. -/
def textOrNull (s : Option String) : Value :=
  (s.map Value.text).getD .null

/-- The settings under their keys, as values. -/
def fields (s : Settings) : List (String × Value) :=
  [(SettingKey.guardStrict.name, .bool s.guardStrict), (SettingKey.logLevel.name, .text s.logLevel),
    (SettingKey.logDir.name, textOrNull s.logDir),
    (SettingKey.contractsPath.name, textOrNull s.contractsPath)]

end Settings

namespace Reading

/-- Settings from the entries of a map; other keys are passed over. -/
def settingsOf (es : List (Value × Value)) : Reading Settings :=
  (both (optional SettingKey.guardStrict.name Settings.default.guardStrict es boolean) <|
    both (optional SettingKey.logLevel.name Settings.default.logLevel es text) <|
    both (optional SettingKey.logDir.name Settings.default.logDir es optionalText)
      (optional SettingKey.contractsPath.name Settings.default.contractsPath es optionalText)).map
        fun (guardStrict, logLevel, logDir, contractsPath) =>
          ⟨guardStrict, logLevel, logDir, contractsPath⟩

/-- Settings from a map. -/
def settings (v : Value) : Reading Settings :=
  match entries "Settings" v with
  | .error e => .error e
  | .ok es => settingsOf es

end Reading

end DataContract

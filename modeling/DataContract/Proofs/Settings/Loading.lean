/-
Loading settings, step by step.

The settings come from the section of the file with the environment put over it
(`Settings.result_load`). Without a file the directory is looked into in vain, and what the
environment says is all there is (`Settings.result_load_of_absent`). Where the file is looked for
can be computed (`Settings.paths`).
-/
import DataContract.Proofs.Files.Reading
import DataContract.Settings.Loading

namespace DataContract

namespace Config

variable {s : Surroundings} {c : Config} {key name : String} {keys : List String}
  {default : Value} {d : Path}

/-- A value under a key with dots is looked for in the file that is named first. -/
theorem result_get (parts : key.splitOn "." = name :: keys) : (get s key default c).2.result =
    (load s name c).2.result.map fun v => follow default v keys := by
  rw [get, parts]
  cases loaded : (load s name c).2.result with
  | error fault => exact (Action.bind_of_error loaded).2
  | ok v => exact (Action.bind_of_ok loaded).2

/-- Of a directory of which nothing has been read yet the file is read. -/
theorem result_load_of_fresh : (load s name ⟨d, []⟩).2.result =
    ((Config.mk d []).found? s name).map fun found => found.getD (.map []) := by
  simp only [load, bind, Action.andThen, Action.state, Noted.ok, List.find?_nil, Action.of]
  cases (Config.mk d []).found? s name with
  | error fault => rfl
  | ok found => cases found <;> rfl

end Config

namespace Settings

theorem fileName_splitOn : (fileName ++ "." ++ fileName).splitOn "." = [fileName, fileName] :=
  (splitOn_singleton _ '.').trans (by decide)

/-- Where the settings file is looked for in the common directory. -/
theorem paths : Config.endings.map
    ((Config.ofDirectory Config.defaultDirectory).path fileName) =
      [⟨"", ["config", "perimeter.yaml"]⟩, ⟨"", ["config", "perimeter.yml"]⟩] := by
  simp only [Config.endings, List.map, Config.path, Config.ofDirectory]
  rw [Path.ofText_eq Config.defaultDirectory, Path.ofText_eq (fileName ++ ".yaml"),
    Path.ofText_eq (fileName ++ ".yml")]
  decide +kernel

/-- What the settings are made from: the section of the file, with what the environment says put over
it. The line for the log is not part of it. -/
theorem result_load (s : Surroundings) (asked : Option String) : (load s asked).result =
    (((Config.get s (fileName ++ "." ++ fileName) (.map [])
      (Config.ofDirectory (directory s.environment asked))).2.result.mapError SettingsFault.config)
        >>= entriesOf) >>= fun es => ofEntries (overridden s.environment es) := by
  rw [load]
  simp only [Noted.result_bind, Noted.mapError, Noted.of, bind_assoc]
  refine bind_congr fun part => bind_congr fun es => ?_
  exact bind_pure (ofEntries (overridden s.environment es))

/-- Without a settings file the environment says everything. -/
theorem result_load_of_absent {s : Surroundings} {asked : Option String}
    (absent : (Config.ofDirectory (directory s.environment asked)).find? s.files fileName =
      .ok none) : (load s asked).result = ofEntries (overridden s.environment []) := by
  have found : (Config.get s (fileName ++ "." ++ fileName) (.map [])
      (Config.ofDirectory (directory s.environment asked))).2.result = .ok (.map []) := by
    rw [Config.result_get fileName_splitOn, Config.ofDirectory, Config.result_load_of_fresh]
    rw [Config.ofDirectory] at absent
    rw [Config.found?, absent]
    rfl
  rw [result_load, found]
  rfl

/-- With no files at all, too, unless the environment names another directory. -/
theorem result_load_of_noFiles {e : Environment} (common : e.get? directoryVariable = none) :
    (load ⟨e, .empty⟩ none).result = ofEntries (overridden e []) := by
  refine result_load_of_absent ?_
  show (Config.ofDirectory (directory e none)).find? .empty fileName = .ok none
  rw [directory, directory.fallback, common, Option.getD_none, Config.find?, paths]
  decide +kernel

end Settings

end DataContract

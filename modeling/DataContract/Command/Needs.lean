/-
What the command has to know of the world it runs in.

Files are found by paths in settings, which stand in files themselves, and texts mention variables. So
what is needed is told as far as what is known already goes: `Command.paths` and
`Command.neededVariables` are asked again once their first answers have been looked up.
-/
import DataContract.Command.Basic

namespace DataContract.Command

/-- The paths that a request and settings lead to: the definition file, the data, and the log. -/
def pathsOf (r : CommandRequest) (settings : Settings) : List String :=
  let log := settings.logDir.map fun directory => directory ++ "/" ++ Logging.fileName
  r.file :: [contractsPath r settings, log].filterMap id

/-- The paths that the command may look at, each after those it leads through. -/
def paths (s : Surroundings) (arguments : List String) : List Path :=
  match CommandRequest.ofArguments arguments, (Settings.load s none).result with
  | .ok (some r), loaded =>
    let c := Config.ofDirectory (Settings.directory s.environment none)
    let given := match loaded with
      | .ok settings => (pathsOf r settings).map Path.ofText
      | .error _ => []
    (Config.endings.map (c.path Settings.fileName) ++ given).flatMap Path.stages
  | _, _ => []

/-- The variables that the command may look at: those of the settings, and those that texts of files
mention. -/
def neededVariables (files : FileTree) : List String :=
  let mentioned := files.entries.flatMap fun (_, e) => match e with
    | .file content => ((Utf8.decode content).toOption.map fun text =>
        Environment.mentioned text.toList).getD []
    | .directory => []
  Settings.directoryVariable :: SettingKey.all.map (·.environmentName) ++ mentioned

end DataContract.Command

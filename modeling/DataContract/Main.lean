/-
The program: the command, run on the files and the variables it finds.

All that it does is `Command.run`; here the world is read for it, and what it leaves is written.
-/
import DataContract.Command.Needs
import Std.Time.DateTime.Timestamp

namespace DataContract.Program

/-- The error number of a path that leads to a directory where a file is wanted. -/
def directoryErrorNumber : UInt32 := 21

/-- Looks up what a path leads to. -/
def look (files : FileTree) (p : Path) : IO FileTree := do
  try
    let content ← IO.FS.readBinFile p.text
    return files.write p content.toList
  catch e =>
    match e with
    | .inappropriateType _ number _ =>
      return if number = directoryErrorNumber then files.addDirectory p else files
    | _ => return files

/-- Looks up variables. -/
def lookVariables (names : List String) : IO Environment := do
  let found ← names.mapM fun name => do return (← IO.getEnv name).map fun value => (name, value)
  return ⟨found.filterMap id⟩

/-- Looks up what the command needs besides the files that are known. -/
def lookAround (arguments : List String) (files : FileTree) : IO Surroundings := do
  let environment ← lookVariables (Command.neededVariables files)
  let files ← (Command.paths ⟨environment, files⟩ arguments).foldlM look files
  return ⟨← lookVariables (Command.neededVariables files), files⟩

/-- Writes the files and directories that were not there before, or were others. -/
def writeFiles (before after : FileTree) : IO Unit :=
  for (names, e) in after.entries do
    if before.entry? names ≠ some e then
      let p := Path.ofNames names
      match e with
      | .directory => IO.FS.createDirAll p.text
      | .file content => IO.FS.writeBinFile p.text ⟨content.toArray⟩

/-- The time of the clock. -/
def clock : IO ClockReading := do
  let milliseconds := (← Std.Time.Timestamp.now).toMillisecondsSinceUnixEpoch.toInt
  return ⟨milliseconds / 1000, (milliseconds % 1000).toNat⟩

/-- Runs the command; the exit code. -/
def run (arguments : List String) : IO UInt32 := do
  let known ← lookAround arguments .empty
  let here ← lookAround arguments known.files
  let out := Command.run (← clock) here arguments
  writeFiles here.files out.files
  IO.print out.printed
  IO.eprint out.errors
  match out.ending with
  | .finished code => return code.toUInt32
  | .usage code => return code.toUInt32
  | .broken fault =>
    IO.eprintln fault.message
    return 1

end DataContract.Program

/-- The program. -/
def main (arguments : List String) : IO UInt32 :=
  DataContract.Program.run arguments

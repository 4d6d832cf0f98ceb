import SchemaForms.CommandLine.Elapsed
import SchemaForms.CommandLine.Folder

/-!
# Main — the program

Reads the environment and the files of a command, carries the command out, and writes what it leaves.
No server can be reached from here.
-/

namespace SchemaForms.CommandLine

/-- Reads the variables that hold settings. -/
def readEnvironment : IO (List (String × String)) := do
  let names := [Config.urlVariable, Config.policyVariable, Config.timeoutVariable]
  let settings ← names.mapM fun name => do
    return (← IO.getEnv name).map fun value => (name, value)
  return settings.filterMap id

/-- The reason for which a file cannot be read or written. -/
def reasonOf : IO.Error → String
  | .noFileOrDirectory .. => FileFault.missing.message
  | .inappropriateType _ _ details =>
    if details.toLower = "not a directory" then FileFault.behindFile.message
    else FileFault.folder.message
  | .permissionDenied .. => "Permission denied (os error 13)"
  | .userError _ => "stream did not contain valid UTF-8"
  | other => toString other

/-- Reads a file. -/
def readFile (name : String) : IO (String × Except String String) := do
  try
    return (name, .ok (← IO.FS.readFile name))
  catch e =>
    return (name, .error (reasonOf e))

/-- Writes the file of a report; the report changes if that fails. -/
def writeFile (report : Report) : IO Report := do
  match report.file with
  | none => return report
  | some (name, text) =>
    try
      IO.FS.writeFile name text
      return report
    catch e =>
      return .refused (reasonOf e)

/-- Prints what the program leaves behind. -/
def leave (left : Exit) : IO UInt32 := do
  IO.print left.output
  IO.eprint left.error
  return left.code.toUInt32

/-- Carries out what the arguments ask for. -/
def runArguments (arguments : Arguments) : IO UInt32 := do
  let config := arguments.configure (Config.ofEnvironment (← readEnvironment))
  let files ← arguments.command.inputFiles.mapM readFile
  let start ← IO.monoNanosNow
  let report ← writeFile (perform arguments.command config files Transport.offline ())
  let stop ← IO.monoNanosNow
  leave (.ofReport report (elapsedText (stop - start)) [])

end SchemaForms.CommandLine

/-- The program. -/
def main (arguments : List String) : IO UInt32 :=
  match SchemaForms.CommandLine.Arguments.parse arguments with
  | .ok parsed => SchemaForms.CommandLine.runArguments parsed
  | .error refusal => SchemaForms.CommandLine.leave (.ofRefusal refusal [])

import ColorLiteral.CommandLine.Run
import ColorLiteral.Surface.Packaged
import Std.Time

/-!
# The program

The outer layer of the command line: it gathers the arguments, the environment, the time and the
file of a surface table of its own, and prints what a run gives.
-/

namespace ColorLiteral.Program

/-- The variables that a run depends on. -/
def variableNames : List Text :=
  [Environment.dataDirectory, Environment.sharedDataDirectory, Environment.userHome,
    Environment.surface, Environment.debugTopics]

/-- The environment of the program. -/
def readEnvironment : IO Environment :=
  variableNames.foldlM (fun e name => do
    let value ← IO.getEnv (String.ofList name)
    return e.assign name (value.map String.toList)) Environment.empty

/-- The surroundings with the surface table that the environment names, if there is one. -/
def withNamedTable (host : Config.Host) : IO Config.Host := do
  let place : Path := .resolve .root (← IO.currentDir).toString.toList
  let host := { host with workingDirectory := place }
  match host.namedData? with
  | none => return host
  | some directory =>
    let path := directory.child "emitters.json"
    try
      let bytes ← IO.FS.readBinFile (String.ofList path.toText)
      return { host with files := host.files.write path ⟨bytes.toList, 0⟩ }
    catch _ => return host

/-- The time as the debug log shows it. -/
def currentTime : IO Text := do
  let now ← Std.Time.PlainDateTime.now
  return (now.format "uuuu-MM-dd HH:mm:ss").toList

end ColorLiteral.Program

open ColorLiteral in
/-- Runs the command line. -/
def main (arguments : List String) : IO UInt32 := do
  let host ← Program.withNamedTable (.packaged (← Program.readEnvironment))
  match CommandLine.run host (← Program.currentTime) (arguments.map String.toList) with
  | .ok output =>
    (← IO.getStdout).putStr (String.ofList output.out)
    (← IO.getStderr).putStr (String.ofList output.err)
    return output.code.toUInt32
  | .error error =>
    IO.eprintln (String.ofList error.message)
    return 1

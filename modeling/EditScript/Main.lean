import EditScript.Cli.Run

/-!
# The program

Reads the environment and the arguments, runs the command line, and prints what
it leaves behind.
-/

namespace EditScript.Cli

def variableNames : List String :=
  ["EDITOPS_LOG_LEVEL", "EDITOPS_INCLUDE_INPUT_TEXT", "EDITOPS_ADJUST_MOVES",
    "EDITOPS_INSERT_ONLY", "EDITOPS_STRICT_PARSING"]

def readSettings : IO Settings := do
  let entries ← variableNames.mapM fun name => do
    let value ← IO.getEnv name
    return (name, value)
  return Settings.ofEnvironment fun name =>
    ((entries.find? fun entry => entry.1 == name).bind (·.2)).map String.toList

end EditScript.Cli

open EditScript in
def main (arguments : List String) : IO UInt32 := do
  let settings ← Cli.readSettings
  let ending := Cli.runWith .standard settings (arguments.map String.toList)
  IO.print (String.ofList ending.output)
  IO.eprint (String.ofList ending.errors)
  match ending.status with
  | .ok status => return status.toUInt32
  | .error failure =>
    IO.eprintln failure.message
    return 1

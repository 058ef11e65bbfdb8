import RowExpr.CommandLine.Run
import RowExpr.Settings.EnvFile

/-!
# The program

Reads what a request needs, and prints what comes of it.
-/

namespace RowExpr.CommandLine

def readContent (path : String) : IO FileContent := do
  try
    return .text (← IO.FS.readFile path)
  catch
    | .noFileOrDirectory .. => return .missing
    | _ => return .unreadable

def readInput : IO FileContent := do
  try
    return .text (← (← IO.getStdin).readToEnd)
  catch _ =>
    return .unreadable

def readSource : Source → IO FileContent
  | .inline text => return .text text
  | .file path => readContent path
  | .standardInput => readInput

/-- The variables of these names that are there. -/
def readVariables (names : List String) : IO Environment := do
  let found ← names.mapM fun name => do return (name, ← IO.getEnv name)
  return found.filterMap fun (name, value) => value.map (name, ·)

/-- The environment, with the variables of a file beside the settings. -/
def readEnvironment : IO (Option Environment) := do
  let names := settingsVariable :: Settings.variables
  match ← readContent ".env" with
  | .text file =>
    let env ← readVariables (names ++ EnvFile.references file.toList)
    return EnvFile.extend? env file
  | _ => return some (← readVariables names)

def answer (env : Environment) (request : Request) : IO UInt32 := do
  let settings ← match request.settings? with
    | some path => readContent path
    | none => pure .missing
  let content ← match request.source? with
    | some source => readSource source
    | none => pure .missing
  match request.run env settings content with
  | .ok text =>
    IO.println text
    return 0
  | .error e =>
    IO.eprintln ("Error: " ++ e.message)
    return 1

end RowExpr.CommandLine

open RowExpr.CommandLine in
def main (args : List String) : IO UInt32 := do
  match ← readEnvironment with
  | none =>
    IO.eprintln "error: a variable cannot be set"
    return 101
  | some env =>
    match Request.parse env args with
    | some request => answer env request
    | none =>
      IO.eprintln "error: the arguments are not understood"
      return 2

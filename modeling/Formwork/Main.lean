import Formwork.CommandLine.Basic

/-!
# The program

Reads the files that the arguments name, and prints how the command ends.
-/

namespace Formwork

/-- The paths that a command reads. -/
def Command.paths : Command → List String
  | .compile definitionPath infoPath _ _ => definitionPath :: infoPath.toList
  | .check definitionPath valuesPath _ _ => [definitionPath, valuesPath]

/-- Reads one file. -/
def readPath (path : String) : IO (Except String String) := do
  try return .ok (← IO.FS.readFile path)
  catch
    | .noFileOrDirectory .. => return .error missingFileText
    | e => return .error e.toString

/-- Reads the files at some paths. -/
def readPaths (paths : List String) : IO Files := do
  let found ← paths.mapM fun path => do return (path, ← readPath path)
  return fun path => (Entries.get? found path).getD (.error missingFileText)

end Formwork

open Formwork in
/-- Carries out the command that the arguments ask for. -/
def main (arguments : List String) : IO UInt32 := do
  let paths := match Request.ofArguments? arguments with
    | some (.run command) => command.paths
    | _ => []
  let ending := CommandLine.run (← readPaths paths) arguments
  IO.print ending.output
  if let some message := ending.error then IO.eprintln ("\nError: " ++ message)
  if ending.code = 2 && ending.output.isEmpty then IO.eprint CommandLine.usage
  return UInt32.ofNat ending.code

import PenPlotter.CommandLine.Execution

/-! The command-line program. Time is virtual, so that a command returns as soon as it is computed. -/

namespace PenPlotter.CommandLine

/-- More tasks than any command that comes to an end needs. -/
def taskLimit : Nat := 1000000000

/-- The text of a file, if there is one. -/
def readFile? (path : String) : IO (Option String) := do
  try return some (← IO.FS.readFile path)
  catch _ => return none

end PenPlotter.CommandLine

open PenPlotter.CommandLine in
def main (words : List String) : IO UInt32 := do
  match Invocation.ofWords? words with
  | none =>
    IO.eprint usage
    return usageExitCode.toUInt32
  | some invocation =>
    let text ← readFile? invocation.settingsFile
    match execute Float taskLimit invocation text [] with
    | none =>
      IO.eprintln "The command did not come to an end."
      return 1
    | some outcome =>
      IO.print outcome.stdout
      IO.eprint outcome.stderr
      return outcome.exitCode.toUInt32

import FabricProvision.Command.Run

/-!
# The command

Reads the files that the command line names, runs, and prints the outcome: the plan to standard output, failures
and causes to standard error.
-/

namespace FabricProvision.Command

/-- The contents of a file, or why it cannot be read. -/
def readText (path : String) : IO (Except String String) := do
  try
    return .ok (← IO.FS.readFile path)
  catch
    | .noFileOrDirectory .. => return .error noSuchFile
    | e => return .error (toString e)

/-- The files that a command line names. -/
def namedFiles (words : List String) : List String :=
  match Invocation.parse words with
  | .ok i => i.config :: i.existing.toList
  | .error _ => []

/-- The causes, each on a line of its own. -/
def renderCauses (causes : List String) : String := "Error: " ++ "\n  caused by: ".intercalate causes

end FabricProvision.Command

open FabricProvision Command in
/-- Runs the command and gives its exit code. -/
def main (words : List String) : IO UInt32 := do
  let contents ← (namedFiles words).mapM fun path => return (path, ← readText path)
  let outcome := Command.run (fun path => (contents.lookup path).getD (.error noSuchFile)) words
  IO.print outcome.output
  if !outcome.failures.isEmpty then IO.eprintln (Failure.renderAll outcome.failures)
  if !outcome.causes.isEmpty then IO.eprintln (renderCauses outcome.causes)
  if outcome.exitCode = 2 then IO.eprint usage
  return outcome.exitCode

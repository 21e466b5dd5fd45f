import LintChain.Rehearsal

/-!
The command line. The standard input holds the script that sets up the project of a rehearsal.
-/

namespace LintChain.Rehearsal

/-- What is left of a stream. -/
partial def readRest (stream : IO.FS.Stream) (before : String) : IO String := do
  let line ← stream.getLine
  if line.isEmpty then return before else readRest stream (before ++ line)

/-- The variables that the program looks at, as far as they are set. -/
def readVariables : IO (List (String × String)) :=
  ["POLYLINT_LOG", "RUST_LOG", "XDG_DATA_HOME", "PYRIGHT_PYTHON_ENV_DIR"].filterMapM fun name => do
    return (← IO.getEnv name).map fun value => (name, value)

end LintChain.Rehearsal

def main (args : List String) : IO UInt32 := do
  let script ← LintChain.Rehearsal.readRest (← IO.getStdin) ""
  let exit := LintChain.Rehearsal.run (← LintChain.Rehearsal.readVariables) script args
  IO.print exit.stdout
  for warning in exit.warnings do
    IO.eprintln ("WARN " ++ warning.message)
  return exit.code.toUInt32

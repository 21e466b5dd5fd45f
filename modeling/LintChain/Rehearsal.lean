import LintChain.Machine
import LintChain.Program

/-!
Rehearsals: a script sets up a project on a machine in memory, and the program runs there. Tools
that the script puts into `bin` come before those of the system.
-/

namespace LintChain.Rehearsal

/-- The directory of the project. -/
def project : Path := ⟨"/tmp/project"⟩

def searchPath : String := (project.join ⟨"bin"⟩).text ++ ":/usr/bin:/bin"

/-- The environment of a rehearsal, given variables on top. -/
def environment (bindings : List (String × String)) : Environment :=
  let own : List (String × String) := [("HOME", "/home"), ("PATH", searchPath)]
  bindings.foldl (fun env (name, value) => env.set name value) ⟨project, own, none⟩

/-- A machine with an empty project. -/
def emptyMachine (env : Environment) : Machine :=
  ⟨Machine.systemTree.makeDirectories (project.join ⟨"bin"⟩), env.bindings⟩

/-- A machine on which a script has run in the directory of the project. -/
def setUp (env : Environment) (script : String) : Machine :=
  (Machine.run ⟨⟨"/bin/sh"⟩, ["-c", script], project, [], none⟩ (emptyMachine env)).2

/-- Runs the program with its arguments on a machine that a script has set up. -/
def run (bindings : List (String × String)) (script : String) (args : List String) : Exit :=
  let env := environment bindings
  (Program.run Machine.host env (setUp env script) args).1

end LintChain.Rehearsal

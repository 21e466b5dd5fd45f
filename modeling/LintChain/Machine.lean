import LintChain.Host
import LintChain.Shell.Interpreter

/-!
A machine in memory: a tree of files, on which shell scripts and standard utilities run. Time passes
only where a process sleeps. It serves to rehearse a run without touching any real file.
-/

namespace LintChain

structure Machine where
  tree : FileTree
  /-- The variables that every process inherits. -/
  bindings : List (String × String)

namespace Machine

open Text (Octets)

/-- The programs of the system. -/
def programs : List String :=
  ["[", "dash", "echo", "env", "kill", "printenv", "printf", "pwd", "sh", "test"] ++
    Shell.Utility.all.map (·.1)

/-- The files of a system without users, which only its temporary directory leaves to others. -/
def systemTree : FileTree :=
  let programs := programs.map fun name => (name, FileTree.file .empty 0o555)
  .directory 0o555 [
    ("bin", .link "usr/bin"),
    ("dev", .directory 0o555 [("null", .device false), ("zero", .device true)]),
    ("tmp", .empty),
    ("usr", .directory 0o555 [("bin", .directory 0o555 programs)])]

/-- The steps that a process may take. -/
def fuel : Nat := 200000

/-- The variables of a process, later ones hiding earlier ones of the same name. -/
def processVariables (m : Machine) (command : Command) : List (Octets × Octets) :=
  let own := command.bindings.reverse
  let inherited := m.bindings.filter fun v => !own.any (·.1 = v.1)
  (own ++ inherited).map fun (name, value) => (Octets.ofString name, Octets.ofString value)

def processState (m : Machine) (command : Command) (deadline? : Option Nat) : Shell.State :=
  let bindings := m.processVariables command
  { tree := m.tree
    cwd := (m.tree.canonical? command.cwd).getD command.cwd
    bindings
    exported := bindings.map (·.1)
    arguments := []
    name := []
    caller := []
    functions := []
    options := []
    lenient := false
    fixed := []
    loops := 0
    saved? := none
    traps := []
    pending := []
    held? := none
    mask := 0o022
    optionPlace := 0
    status := 0
    line := 1
    process := 1000
    input := []
    sinks := [(1, .buffer 0), (2, .buffer 1)]
    buffers := #[.empty, .empty]
    elapsed := 0
    deadline?
    flow := .next }

/-- What a process that ended left behind. -/
def outputOf (s : Shell.State) : Output :=
  let text (i : Nat) : String := Text.Utf8.decodeLossy (s.buffers[i]?.getD .empty)
  let code? : Option Int := match s.flow with
    | .killed _ | .late => none
    | _ => some (s.status % 256 : Nat)
  ⟨code?, text 0, text 1⟩

/-- Runs a process to its end or to a deadline. -/
def start (m : Machine) (command : Command) (deadline? : Option Nat) :
    Except SystemError Shell.State :=
  if command.holdsZero then .error .zeroInCommand
  else
    match m.tree.enter command.cwd with
    | .error reason => .error reason
    | .ok _ =>
      let args := command.args.map Octets.ofString
      let path := Octets.ofString (command.cwd.join command.program).text
      Shell.runProgram fuel path path args (m.processState command deadline?)

def run (command : Command) (m : Machine) : Except ProcessError Output × Machine :=
  match m.start command none with
  | .error reason => (.error (.notStarted reason), m)
  | .ok s => (.ok (outputOf s), { m with tree := s.tree })

def runWithin (span : Duration) (command : Command) (m : Machine) :
    Except ProcessError (Option Output) × Machine :=
  match m.start command (some span.nanos) with
  | .error reason => (.error (.notStarted reason), m)
  | .ok s =>
    let isLate := s.flow = .late ∨ span.nanos ≤ s.elapsed
    (.ok (if isLate then none else some (outputOf s)), { m with tree := s.tree })

def host : Host Machine where
  kind? m path := m.tree.kind? path
  list m path := m.tree.list path
  canonical? m path := m.tree.canonical? path
  read m path := m.tree.read path
  isExecutable m path := m.tree.isExecutable path
  run := run
  runWithin := runWithin
  pause _ m := m

end Machine

end LintChain

import LintChain.Shell.Builtin.Variable
import LintChain.Shell.Signal

/-!
The shell's commands on its own course: leaving loops, functions and the shell, signals, and actions
at signals.
-/

namespace LintChain.Shell.Builtin

open Text (Octets)

/-- Ends the shell or a function with a status; inside an action a plain end leaves the status from
before it. -/
def exit (s : State) (line : Nat) (command : String) (flow : Flow) (args : List Octets) : State :=
  match args with
  | [] => { s with status := s.held?.getD s.status, flow }
  | arg :: _ =>
    match Octets.toNat? arg with
    | some n => { s with status := n, flow, held? := s.held?.map fun _ => n }
    | none => s.abort line (inName command ("Illegal number: ".toList ++ arg))

/-- Leaves loops, as many as the argument says, if so many are running. -/
def leave (s : State) (line : Nat) (command : String) (flow : Nat → Flow) (args : List Octets) :
    State :=
  match (args.head?.map Octets.toNat?).getD (some 1) with
  | some (n + 1) =>
    let n := min (n + 1) s.loops
    { s with status := 0, flow := if n = 0 then s.flow else flow n }
  | _ => s.abort line (inName command ("Illegal number: ".toList ++ args.head?.getD []))

/-! ### Signals -/

/-- The signal that is to be sent, and the operands; otherwise what is wrong. -/
def killArguments (args : List Octets) : Except Octets (Nat × List Octets) :=
  match args with
  | ['-', '-'] :: rest => .ok (Signal.terminate, rest)
  | ['-', 's'] :: name :: rest =>
    match Signal.ofText? name with
    | some signal => .ok (signal, rest)
    | none => .error ("invalid signal number or name: ".toList ++ name)
  | ('-' :: c :: name) :: rest =>
    match Signal.ofText? (c :: name) with
    | some signal => .ok (signal, rest)
    | none => .error ("Illegal option -".toList ++ [c])
  | args => .ok (Signal.terminate, args)

/-- A signal arrives at the shell. -/
def receive (s : State) (signal : Nat) : State :=
  match if Signal.isCertain signal then none else s.trap? signal with
  | some [] => s
  | some _ => { s with pending := s.pending ++ [signal] }
  | none =>
    match Signal.effect signal with
    | .nothing => s
    | .stops => { s with flow := .late }
    | .ends => { s with flow := .killed signal }

/-- Sends a signal to each operand; the only process there is to be found is the shell's own. -/
def killEach (s : State) (line : Nat) (signal : Nat) : List Octets → State
  | [] => s
  | operand :: rest =>
    let (isGroup, digits) := match operand with
      | '-' :: digits => (true, digits)
      | digits => (false, digits)
    match Octets.toNat? digits with
    | none => s.complainWith line 2 (inName "kill" ("Illegal number: ".toList ++ digits))
    | some target =>
      if isGroup ∨ target ≠ s.process then
        killEach (s.complainWith line 1 "kill: No such process\n".toList) line signal rest
      else
        let s := receive s signal
        if s.isRunning then killEach s line signal rest else s

def kill (s : State) (line : Nat) (args : List Octets) : State :=
  match killArguments args with
  | .error reason => s.complainWith line 2 (inName "kill" reason)
  | .ok (_, []) =>
    s.complainWith line 2 ("kill: Usage: kill [-s sigspec | -signum | -sigspec] [pid | job]... or\n"
      ++ "kill -l [exitstatus]").toList
  | .ok (signal, operands) => killEach (s.withStatus 0) line signal operands

/-! ### Actions -/

def printTraps (s : State) : State :=
  let sorted := s.traps.mergeSort fun a b => a.1 ≤ b.1
  let line (t : Nat × Octets) : Octets :=
    "trap -- ".toList ++ singleQuoted t.2 ++ ' ' :: (Signal.name t.1).toList ++ ['\n']
  (s.write 1 (sorted.flatMap line)).withStatus 0

/-- Sets the action at each of some signals, up to one that there is not. -/
def trapEach (s : State) (action? : Option Octets) : List Octets → State
  | [] => s.withStatus 0
  | name :: rest =>
    match Signal.ofTextOrEnd? name with
    | none => (s.write 2 ("trap: ".toList ++ name ++ ": bad trap\n".toList)).withStatus 1
    | some signal => trapEach (s.setTrap signal action?) action? rest

def trap (s : State) (args : List Octets) : State :=
  let args := if args.head? = some ['-', '-'] then args.tail else args
  match args with
  | [] => printTraps s
  | first :: rest =>
    if rest.isEmpty ∨ (Octets.toNat? first).any (· ≤ Signal.last) then trapEach s none args
    else trapEach s (if first = ['-'] then none else some first) rest

end LintChain.Shell.Builtin

import LintChain.FileTree
import LintChain.Shell.Script
import LintChain.Shell.Signal
import LintChain.Shell.Wildcard

/-!
The state of a running shell: its variables and arguments, the files and the time as it finds them,
and where its output goes.
-/

namespace LintChain.Shell

open Text (Octets)

/-- Where a descriptor writes to. -/
inductive Sink
  | buffer (index : Nat)
  | file (names : List String)
  | nowhere

/-- Whether a shell goes on with the next command. -/
inductive Flow
  | next
  | exit
  /-- Leaves so many loops. -/
  | leave (loops : Nat)
  /-- Leaves so many loops but one, and goes on with that. -/
  | again (loops : Nat)
  | returned
  | killed (signal : Nat)
  /-- The time is up, or never goes on. -/
  | late
  deriving DecidableEq

structure State where
  tree : FileTree
  cwd : Path
  bindings : List (Octets × Octets)
  /-- The variables that other programs get. -/
  exported : List Octets
  arguments : List Octets
  /-- The name of the script. -/
  name : Octets
  /-- The command of the shell that runs a text or a program, and has its name in messages. -/
  caller : Octets
  functions : List (Octets × Command)
  /-- The letters of the options that are set: `e` ends the shell at a failure, `f` takes patterns
  for themselves, `u` refuses unset parameters and `x` shows the commands. -/
  options : List Char
  /-- Whether failures are nobody's concern. -/
  lenient : Bool
  /-- The variables that keep their values. -/
  fixed : List Octets
  /-- How many loops are running in one another. -/
  loops : Nat
  /-- What the variables that a function has made its own were before; none outside functions. -/
  saved? : Option (List (Octets × Option Octets))
  /-- The actions at signals, and at the end under the number 0. -/
  traps : List (Nat × Octets)
  /-- The signals that wait for their actions. -/
  pending : List Nat
  /-- The status before the action that is running. -/
  held? : Option Nat
  /-- The permissions that new files do not get. -/
  mask : Nat
  /-- How far the script's options are read in the word that is being read. -/
  optionPlace : Nat
  status : Nat
  /-- The line of the command that is running. -/
  line : Nat
  process : Nat
  input : Octets
  sinks : List (Nat × Sink)
  buffers : Array ByteArray
  /-- Nanoseconds since the start. -/
  elapsed : Nat
  deadline? : Option Nat
  flow : Flow

namespace State

def isRunning (s : State) : Bool := s.flow = .next

def value? (s : State) (name : Octets) : Option Octets :=
  (s.bindings.find? (·.1 = name)).map (·.2)

def assign (s : State) (name value : Octets) : State :=
  { s with bindings := (name, value) :: s.bindings.filter (·.1 ≠ name) }

def unassign (s : State) (name : Octets) : State :=
  { s with bindings := s.bindings.filter (·.1 ≠ name)
           exported := s.exported.filter (· ≠ name) }

/-- Takes what a function has made its own back, and gives the outer function its own again. -/
def leaveFunction (outer s : State) : State :=
  let restored := (s.saved?.getD []).foldl (fun s (name, value?) =>
    match value? with
    | some value => s.assign name value
    | none => s.unassign name) s
  { restored with saved? := outer.saved? }

/-- Makes a variable the running function's own, if one is running. -/
def own (s : State) (name : Octets) : State :=
  match s.saved? with
  | none => s
  | some saved =>
    if saved.any (·.1 = name) then s
    else { s with saved? := some ((name, s.value? name) :: saved) }

def publish (s : State) (name : Octets) : State :=
  if s.exported.contains name then s else { s with exported := name :: s.exported }

/-- The variables that another program gets. -/
def environment (s : State) : List (Octets × Octets) :=
  s.bindings.filter fun v => s.exported.contains v.1

def withStatus (s : State) (status : Nat) : State := { s with status }

def hasOption (s : State) (letter : Char) : Bool := s.options.contains letter

def setOption (s : State) (letter : Char) (on : Bool) : State :=
  let others := s.options.filter (· ≠ letter)
  { s with options := if on then letter :: others else others }

/-- Ends the shell if it is to end at failures and there was one. -/
def checked (s : State) : State :=
  if s.hasOption 'e' && !s.lenient && s.isRunning && s.status != 0 then { s with flow := .exit }
  else s

/-- Runs a part whose failures are nobody's concern. -/
def leniently (s : State) (run : State → State) : State :=
  { run { s with lenient := true } with lenient := s.lenient }

def succeedIf (s : State) (b : Bool) : State := s.withStatus (if b then 0 else 1)

def path (s : State) (operand : Octets) : Path :=
  if operand = [] then ⟨""⟩ else s.cwd.join ⟨operand.toText⟩

def sink (s : State) (descriptor : Nat) : Sink :=
  ((s.sinks.find? (·.1 = descriptor)).map (·.2)).getD .nowhere

/-- Whether a descriptor stands for anything; the input always does. -/
def isOpen (s : State) (descriptor : Nat) : Bool :=
  descriptor = 0 || s.sinks.any (·.1 = descriptor)

def redirect (s : State) (descriptor : Nat) (sink : Sink) : State :=
  { s with sinks := (descriptor, sink) :: s.sinks.filter (·.1 ≠ descriptor) }

def write (s : State) (descriptor : Nat) (octets : Octets) : State :=
  match s.sink descriptor with
  | .buffer index => { s with buffers := s.buffers.modify index (· ++ octets.toBytes) }
  | .file names => { s with tree := s.tree.store true octets.toBytes names }
  | .nowhere => s

/-- Lets time pass, up to the deadline. -/
def pass (s : State) (span : Nat) : State :=
  let elapsed := s.elapsed + span
  if s.deadline?.any (· ≤ elapsed) then { s with elapsed, flow := .late } else { s with elapsed }

/-- Writes a message in the name of the script. -/
def complain (s : State) (line : Nat) (message : Octets) : State :=
  let names := [s.name, Octets.ofNat line, s.caller].filter (· ≠ [])
  s.write 2 (names.flatMap (· ++ ": ".toList) ++ message ++ ['\n'])

/-- Runs a part in the name of a command of the shell. -/
def calling (s : State) (name : Octets) (run : State → State) : State :=
  { run { s with caller := name } with caller := s.caller }

def complainWith (s : State) (line : Nat) (status : Nat) (message : Octets) : State :=
  (s.complain line message).withStatus status

/-- Gives a variable a value, or ends the shell if the variable keeps its own. -/
def assignFree (s : State) (line : Nat) (name value : Octets) : State :=
  if s.fixed.contains name then
    { s.complainWith line 2 (name ++ ": is read only".toList) with flow := .exit }
  else s.assign name value

/-- The characters that separate fields. -/
def separators (s : State) : Octets := (s.value? "IFS".toList).getD " \t\n".toList

def trap? (s : State) (signal : Nat) : Option Octets :=
  (s.traps.find? (·.1 = signal)).map (·.2)

def setTrap (s : State) (signal : Nat) (action? : Option Octets) : State :=
  let others := s.traps.filter (·.1 ≠ signal)
  { s with traps := (action?.map fun action => (signal, action)).toList ++ others }

/-- A copy of the shell, to which only the signals that are passed over are the same. -/
def copied (s : State) : State :=
  { s with traps := s.traps.filter fun t => t.1 ≠ 0 && t.2 = [], pending := [], held? := none }

/-- With output to a new buffer, whose number comes first. -/
def capture (s : State) : Nat × State :=
  let index := s.buffers.size
  (index, { s with buffers := s.buffers.push .empty }.redirect 1 (.buffer index))

/-- What the newest buffer holds, and the state without it. -/
def release (s : State) : Octets × State :=
  (Octets.ofBytes (s.buffers.back?.getD .empty), { s with buffers := s.buffers.pop })

/-- `outer` after `inner` ran on a copy of it: files, time and output stay, all else is gone. -/
def rejoin (outer inner : State) : State :=
  let (flow, pending) : Flow × List Nat := match inner.flow with
    | .killed signal =>
      if (outer.trap? signal).isSome then (.next, outer.pending ++ [signal])
      else (.killed signal, outer.pending)
    | .late => (.late, outer.pending)
    | _ => (.next, outer.pending)
  { outer with
    tree := inner.tree
    input := inner.input
    buffers := inner.buffers
    elapsed := inner.elapsed
    status := inner.status
    pending
    flow }

/-- `outer` after another program `inner` ended. -/
def resume (outer inner : State) : State :=
  match inner.flow with
  | .killed signal =>
    let s := outer.rejoin { inner with status := 128 + signal, flow := .next }
    let obituary := Signal.obituary signal
    if obituary.isEmpty then s else s.write 2 (obituary.toList ++ ['\n'])
  | _ => outer.rejoin inner

end State

/-- An element of an expanded word. -/
inductive Element
  | char (c : Char) (quoted : Bool)
  /-- Blanks between fields. -/
  | gap
  /-- The end of a field, which may be a field of nothing. -/
  | cut
  /-- Makes a field of nothing. -/
  | mark

namespace Element

def quote (octets : Octets) : List Element := .mark :: octets.map fun c => .char c true

def isBlank (c : Char) : Bool := c = ' ' || c = '\t' || c = '\n'

/-- A value that is not quoted: separators end fields. -/
def split (separators octets : Octets) : List Element :=
  octets.map fun c =>
    if !separators.contains c then .char c false else if isBlank c then .gap else .cut

/-- The elements of a value; there are separators where fields are wanted. -/
def ofValue (quoted : Bool) (separators? : Option Octets) (octets : Octets) : List Element :=
  if quoted then quote octets
  else
    match separators? with
    | some separators => split separators octets
    | none => octets.map fun c => .char c false

/-- The characters with their quoting. -/
def glyphs (elements : List Element) : List Glyph :=
  elements.filterMap fun
    | .char c q => some (c, q)
    | _ => none

def octets (elements : List Element) : Octets := (glyphs elements).map (·.1)

/-- Elements being put together to fields. -/
structure Gathering where
  done : List (List Glyph)
  /-- The field that is not at its end, last character first. -/
  field? : Option (List Glyph)
  /-- Whether blanks were the last thing that ended a field. -/
  afterBlanks : Bool

def Gathering.close (g : Gathering) : List (List Glyph) :=
  g.done ++ (g.field?.map List.reverse).toList

def Gathering.add (g : Gathering) (e : Element) : Gathering :=
  match e, g.field? with
  | .gap, some _ => ⟨g.close, none, true⟩
  | .gap, none => g
  | .cut, some _ => ⟨g.close, none, false⟩
  | .cut, none => if g.afterBlanks then ⟨g.done, none, false⟩ else ⟨g.done ++ [[]], none, false⟩
  | .mark, field? => ⟨g.done, some (field?.getD []), false⟩
  | .char c q, field? => ⟨g.done, some ((c, q) :: field?.getD []), false⟩

/-- The fields: the runs between separators that are not empty or are marked. -/
def fields (elements : List Element) : List (List Glyph) :=
  (elements.foldl Gathering.add ⟨[], none, false⟩).close

end Element

end LintChain.Shell

import LintChain.Shell.Builtin
import LintChain.Shell.Utility.Filter

/-!
What parameters, patterns and the names of commands stand for in the state of a shell.
-/

namespace LintChain.Shell

open Text (Octets)

namespace State

/-- The character that joins all arguments to one text. -/
def joint (s : State) : Octets := s.separators.take 1

/-- The value of a parameter, if it is set. -/
def parameter? (s : State) (name : Octets) : Option Octets :=
  match name with
  | ['@'] | ['*'] => some (s.arguments.intersperse s.joint).flatten
  | ['#'] => some (Octets.ofNat s.arguments.length)
  | ['?'] => some (Octets.ofNat s.status)
  | ['$'] => some (Octets.ofNat s.process)
  | ['-'] => some (Builtin.optionLetters.filter s.hasOption)
  | ['!'] => none
  | _ =>
    match Octets.toNat? name with
    | some 0 => some s.name
    | some (n + 1) => s.arguments[n]?
    | none => s.value? name

/-- The characters that separate fields, where fields are wanted. -/
def separators? (s : State) (splitting : Bool) : Option Octets :=
  if splitting then some s.separators else none

/-- All arguments, as fields of their own where fields are wanted. -/
def allArguments (s : State) (quoted splitting : Bool) (name : Octets) : List Element :=
  if splitting then
    ((s.arguments.map (Element.ofValue quoted (s.separators? true))).intersperse [.gap]).flatten
  else ((s.parameter? name).getD []).map fun c => .char c quoted

/-- With the home directory for a tilde in front of a slash or alone. -/
def expandTilde (s : State) (word : List Part) : List Part :=
  match word with
  | .text false ('~' :: cs) :: rest =>
    if cs.head? = some '/' ∨ (cs = [] ∧ rest.isEmpty) then
      match s.value? "HOME".toList with
      | some home => .text true home :: .text false cs :: rest
      | none => word
    else word
  | word => word

def isWild (g : Glyph) : Bool := !g.2 && "*?[".toList.contains g.1

/-- The paths that a field stands for: those that it matches as a pattern, or itself. -/
def paths (s : State) (field : List Glyph) : List Octets :=
  let plain := field.map (·.1)
  if s.hasOption 'f' || !field.any isWild then [plain]
  else
    let last := (field.reverse.takeWhile fun g => g.1 ≠ '/').reverse
    let front := plain.take (plain.length - last.length)
    let directory := if front = [] then s.cwd else s.path front
    match s.tree.lookUp directory with
    | .ok (_, .directory mode entries) =>
      let hidden := last.head?.any (·.1 = '.')
      let visible := if FileTree.allows mode 4 then entries else []
      let names := (visible.map fun (name, _) => Octets.ofString name).filter fun name =>
        (hidden || name.head? ≠ some '.') && isMatch last name
      let sorted := names.mergeSort Octets.isOrdered
      if sorted.isEmpty then [plain] else sorted.map (front ++ ·)
    | _ => [plain]

/-- The spellings of a name below the directories of the search path. -/
def candidates (s : State) (name : Octets) : List Octets :=
  let directories := Text.fields ':' ((s.value? "PATH".toList).getD "/usr/bin:/bin".toList)
  directories.map fun d => if d = [] then name else d ++ '/' :: name

/-- How the program of a name is spelled as a path. -/
def findProgram? (s : State) (name : Octets) : Option Octets :=
  if name.contains '/' then
    if (s.tree.kind? (s.path name)).isSome then some name else none
  else (s.candidates name).find? fun path => s.tree.isExecutable (s.path path)

/-- The path of a script to be read in place. -/
def findScript? (s : State) (name : Octets) : Option Octets :=
  if name.contains '/' then some name
  else (s.candidates name).find? fun path => s.tree.kind? (s.path path) = some .file

/-- The state of a shell of its own, with the variables that others get. -/
def child (s : State) (name : Octets) (arguments : List Octets) : State :=
  let own : List (Octets × Octets) :=
    [("PWD".toList, Octets.ofString s.cwd.text), ("IFS".toList, " \t\n".toList),
      ("OPTIND".toList, ['1'])]
  { s.copied with
    bindings := own ++ s.environment.filter fun v => !own.any (·.1 = v.1)
    exported := "PWD".toList :: s.exported.filter (· ≠ "PWD".toList)
    functions := []
    options := []
    loops := 0
    lenient := false
    fixed := []
    saved? := none
    optionPlace := 0
    name, arguments
    caller := []
    status := 0
    process := s.process + 1
    flow := .next }

/-- What a utility did. -/
def apply (s : State) (e : Effect) : State :=
  let s := { s with tree := e.tree, input := e.input, status := e.status }
  ((s.write 1 e.output).write 2 e.errors).pass e.span

/-- Leaves a loop on request, and says whether the loop goes on. -/
def endRound (s : State) : Bool × State :=
  match s.flow with
  | .next => (true, s)
  | .leave n => (false, { s with flow := if n ≤ 1 then .next else .leave (n - 1) })
  | .again n =>
    if n ≤ 1 then (true, { s with flow := .next }) else (false, { s with flow := .again (n - 1) })
  | _ => (false, s)

/-- `after` with the variables of some names as they were `before`. -/
def withOld (before after : State) (names : List Octets) : State :=
  names.foldl (fun s name =>
    let s := match before.value? name with
      | some value => s.assign name value
      | none => s.unassign name
    if before.exported.contains name then s.publish name
    else { s with exported := s.exported.filter (· ≠ name) }) after

/-! ### Saying what a name stands for -/

/-- What a name stands for as a command, in words. -/
def describe? (s : State) (name : Octets) : Option Octets :=
  let text := String.ofList name
  let is (what : String) : Option Octets := some (name ++ (" is " ++ what).toList)
  if (Reader.reserved.filter (· ≠ "in")).contains text then is "a shell keyword"
  else if s.functions.any (·.1 = name) then is "a shell function"
  else if Builtin.special.contains text then is "a special shell builtin"
  else if Builtin.regular.contains text then is "a shell builtin"
  else (s.findProgram? name).map fun path => name ++ " is ".toList ++ path

/-- What a name stands for as a command, as a word that could be used for it. -/
def commandWord? (s : State) (name : Octets) : Option Octets :=
  let text := String.ofList name
  if Reader.reserved.contains text || s.functions.any (·.1 = name) ||
      Builtin.special.contains text || Builtin.regular.contains text then some name
  else s.findProgram? name

/-- Prints what names stand for. -/
def describeAll (s : State) (names : List Octets) : State :=
  names.foldl (fun s name =>
    match s.describe? name with
    | some text => s.write 1 (text ++ ['\n'])
    | none => (s.write 1 (name ++ ": not found\n".toList)).withStatus 127) (s.withStatus 0)

/-- Shows a command, if commands are to be shown. -/
def trace (s : State) (assignments : List Octets) (fields : List Octets) : State :=
  if s.hasOption 'x' then
    let assigned := assignments.map fun name => name ++ '=' :: (s.value? name).getD []
    let front := (s.value? "PS4".toList).getD "+ ".toList
    s.write 2 (front ++ Text.unfields ' ' (assigned ++ fields) ++ ['\n'])
  else s

end State

end LintChain.Shell

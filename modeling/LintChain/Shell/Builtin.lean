import LintChain.Shell.Builtin.Control
import LintChain.Shell.Format
import LintChain.Shell.Test

/-!
The commands that the shell itself carries out.
-/

namespace LintChain.Shell.Builtin

open Text (Octets)

/-! ### Directories -/

/-- The path that a text leads to, every `..` taking the name before it away. -/
def logicalPath (cwd : Path) (target : Octets) : Path :=
  let path := cwd.join ⟨target.toText⟩
  let names := path.components.foldl (fun (names : List String) c =>
    match c with
    | .name text => text :: names
    | .parent => names.tail
    | _ => names) []
  FileTree.namesPath names.reverse

def changeDirectory (s : State) (line : Nat) (args : List Octets) : State :=
  let args := args.filter fun a => a ≠ ['-', 'L'] && a ≠ ['-', 'P'] && a ≠ ['-', '-']
  let back := args.head? = some ['-']
  let target :=
    if back then (s.value? "OLDPWD".toList).getD (Octets.ofString s.cwd.text)
    else args.head?.getD ((s.value? "HOME".toList).getD [])
  let path := logicalPath s.cwd target
  match s.tree.enter path with
  | .ok _ =>
    let before := Octets.ofString s.cwd.text
    let after := Octets.ofString path.text
    let s := ({ s with cwd := path }.assign "OLDPWD".toList before).assign "PWD".toList after
    let s := (s.publish "OLDPWD".toList).publish "PWD".toList
    (if back then s.write 1 (after ++ ['\n']) else s).withStatus 0
  | .error _ => s.complainWith line 2 (inName "cd" ("can't cd to ".toList ++ target))

def printDirectory (s : State) (args : List Octets) : State :=
  let path := if args.contains ['-', 'P'] then (s.tree.canonical? s.cwd).getD s.cwd else s.cwd
  (s.write 1 (Octets.ofString path.text ++ ['\n'])).withStatus 0

/-! ### Permissions of new files -/

/-- The letters that may stand for permissions, with their bits. -/
def permissionBit (c : Char) : Option Nat :=
  match c with
  | 'r' => some 4
  | 'w' => some 2
  | 'x' => some 1
  | _ => none

/-- A change of the permissions that new files get, such as `u=rwx,g-w`. -/
def changeMask? (mask : Nat) (text : Octets) : Option Nat :=
  (Text.fields ',' text).foldlM (fun (mask : Nat) clause => do
    let who := clause.takeWhile fun c => "ugoa".contains c
    let rest := clause.drop who.length
    let op ← rest.head?
    let bits ← rest.tail.mapM permissionBit
    let bits := bits.foldl (· ||| ·) 0
    if !"+-=".contains op then none
    let shifts := [('u', 64), ('g', 8), ('o', 1)].filterMap fun (c, shift) =>
      if who.isEmpty ∨ who.contains c ∨ who.contains 'a' then some shift else none
    return shifts.foldl (fun mask shift =>
      let old := 7 - mask / shift % 8
      let new := if op = '+' then old ||| bits else if op = '-' then old - (old &&& bits) else bits
      mask - (7 - old) * shift + (7 - new) * shift) mask) mask

def octalText (n : Nat) : Octets :=
  let digits := Nat.toDigits 8 n
  List.replicate (4 - digits.length) '0' ++ digits

def maskText (mask : Nat) : Octets :=
  let part (who : Char) (shift : Nat) : Octets :=
    let bits := 7 - mask / shift % 8
    who :: '=' :: [('r', 4), ('w', 2), ('x', 1)].filterMap fun (c, bit) =>
      if bits / bit % 2 = 1 then some c else none
  part 'u' 64 ++ ',' :: part 'g' 8 ++ ',' :: part 'o' 1

def umask (s : State) (line : Nat) (args : List Octets) : State :=
  match args with
  | [] => (s.write 1 (octalText s.mask ++ ['\n'])).withStatus 0
  | ['-', 'S'] :: _ => (s.write 1 (maskText s.mask ++ ['\n'])).withStatus 0
  | arg :: _ =>
    if arg.head?.any Char.isDigit then
      if arg.all fun c => '0' ≤ c && c ≤ '7' then
        { s with mask := arg.foldl (fun n c => n * 8 + (c.toNat - '0'.toNat)) 0 % 512, status := 0 }
      else s.complainWith line 2 (inName "umask" ("Illegal number: ".toList ++ arg))
    else
      match changeMask? s.mask arg with
      | some mask => { s with mask, status := 0 }
      | none => s.complainWith line 2 (inName "umask" ("Illegal mode: ".toList ++ arg))

/-! ### All together -/

/-- The status is 0 if the test holds, 1 if not and 2 if it cannot be told. -/
def test (s : State) (line : Nat) (name : String) (args : List Octets) : State :=
  match Test.evaluate s args with
  | .ok value => s.succeedIf value
  | .error e => s.complainWith line 2 (inName name e.message)

def printf (s : State) (line : Nat) (args : List Octets) : State :=
  match if args.head? = some ['-', '-'] then args.tail else args with
  | [] => s.complainWith line 2 "printf: usage: printf format [arg ...]".toList
  | format :: rest =>
    let (text, problems, fatal?) := Format.printf format rest
    let complain (s : State) (problem : Octets) : State := s.complain line (inName "printf" problem)
    let s := problems.foldl complain s
    match fatal? with
    | some problem => (complain (s.write 1 text) problem).withStatus 2
    | none => (s.write 1 text).succeedIf problems.isEmpty

/-- The commands whose failures end the shell. -/
def special : List String :=
  [".", ":", "break", "continue", "eval", "exec", "exit", "export", "readonly", "return", "set",
    "shift", "times", "trap", "unset"]

def regular : List String :=
  ["[", "alias", "bg", "cd", "chdir", "command", "echo", "false", "fg", "getopts", "hash", "jobs",
    "kill", "local", "printf", "pwd", "read", "test", "true", "type", "ulimit", "umask", "unalias",
    "wait"]

/-- Carries out a command, if it is one of the shell's own. -/
def run? (s : State) (line : Nat) (name : Octets) (args : List Octets) : Option State :=
  match String.ofList name with
  | ":" | "true" => some (s.withStatus 0)
  | "false" => some (s.withStatus 1)
  | "echo" => some ((s.write 1 (Format.echo args)).withStatus 0)
  | "printf" => some (printf s line args)
  | "test" => some (test s line "test" args)
  | "[" =>
    if args.getLast? = some [']'] then some (test s line "[" args.dropLast)
    else some (s.complainWith line 2 "[: missing ]".toList)
  | "exit" => some (exit s line "exit" .exit args)
  | "return" => some (exit s line "return" .returned args)
  | "break" => some (leave s line "break" .leave args)
  | "continue" => some (leave s line "continue" .again args)
  | "kill" => some (kill s line args)
  | "read" => some (readLine s line args)
  | "cd" | "chdir" => some (changeDirectory s line args)
  | "pwd" => some (printDirectory s args)
  | "export" => some (publish s line args)
  | "readonly" => some (fix s line args)
  | "local" => some (localize s line args)
  | "unset" => some (unset s line args)
  | "shift" => some (shift s line args)
  | "set" => some (set s line args)
  | "getopts" => some (getOption s line args)
  | "trap" => some (trap s args)
  | "umask" => some (umask s line args)
  | "wait" | "hash" | "jobs" | "ulimit" => some (s.withStatus 0)
  | _ => none

end LintChain.Shell.Builtin

import LintChain.Shell.Reader
import LintChain.Shell.State

/-!
The shell's commands on variables, arguments and options.
-/

namespace LintChain.Shell

open Text (Octets)

namespace State

/-- Complains and ends the shell. -/
def abort (s : State) (line : Nat) (message : Octets) : State :=
  { s.complainWith line 2 message with flow := .exit }

end State

namespace Builtin

/-- A message in the name of a command. -/
def inName (command : String) (message : Octets) : Octets :=
  command.toList ++ ": ".toList ++ message

/-- A text between single quotes, as a shell reads it back. -/
def singleQuoted (text : Octets) : Octets :=
  '\'' :: text.flatMap (fun c => if c = '\'' then "'\"'\"'".toList else [c]) ++ ['\'']

/-- The name and the value, if there is one, of an operand such as `name=value`. -/
def spanAssignment (operand : Octets) : Octets × Option Octets :=
  let name := operand.takeWhile (· ≠ '=')
  (name, if name.length < operand.length then some (operand.drop (name.length + 1)) else none)

/-- Carries out a step for each operand that starts with a name, as long as the shell runs on. -/
def eachName (s : State) (line : Nat) (command : String) (operands : List Octets)
    (step : State → Octets → Option Octets → State) : State :=
  operands.foldl (fun s operand =>
    let (name, value?) := spanAssignment operand
    if !s.isRunning then s
    else if !Reader.isName name then
      s.abort line (inName command (name ++ ": bad variable name".toList))
    else if value?.isSome ∧ s.fixed.contains name then
      s.abort line (inName command (name ++ ": is read only".toList))
    else step s name value?) (s.withStatus 0)

/-- The operands behind an option to print. -/
def withoutPrint (args : List Octets) : List Octets := args.filter (· ≠ ['-', 'p'])

/-- Prints variables as commands that give them their values. -/
def printVariables (s : State) (command : String) (names : List Octets) : State :=
  let sorted := names.mergeSort Octets.isOrdered
  let line (name : Octets) : Octets :=
    let value := (s.value? name).map fun value => '=' :: singleQuoted value
    command.toList ++ ' ' :: name ++ value.getD [] ++ ['\n']
  (s.write 1 (sorted.flatMap line)).withStatus 0

def publish (s : State) (line : Nat) (args : List Octets) : State :=
  if (withoutPrint args).isEmpty then printVariables s "export" s.exported
  else eachName s line "export" (withoutPrint args) fun s name value? =>
    (match value? with
      | some value => s.assign name value
      | none => s).publish name

/-- Keeps variables as they are. -/
def fix (s : State) (line : Nat) (args : List Octets) : State :=
  if (withoutPrint args).isEmpty then printVariables s "readonly" s.fixed
  else eachName s line "readonly" (withoutPrint args) fun s name value? =>
    let s := match value? with
      | some value => s.assign name value
      | none => s
    if s.fixed.contains name then s else { s with fixed := name :: s.fixed }

/-- Makes variables the running function's own. -/
def localize (s : State) (line : Nat) (args : List Octets) : State :=
  if s.saved?.isNone then s.abort line "local: not in a function".toList
  else eachName s line "local" args fun s name value? =>
    match value? with
    | some value => (s.own name).assign name value
    | none => s.own name

def unset (s : State) (line : Nat) (args : List Octets) : State :=
  match args with
  | ['-', 'f'] :: names =>
    { s.withStatus 0 with functions := s.functions.filter fun f => !names.contains f.1 }
  | _ =>
    let names := if args.head? = some ['-', 'v'] then args.tail else args
    match names.head? with
    | some ('-' :: c :: _) => s.abort line (inName "unset" ("Illegal option -".toList ++ [c]))
    | _ =>
      eachName s line "unset" names fun s name _ =>
        if s.fixed.contains name then
          s.abort line (inName "unset" (name ++ ": is read only".toList))
        else s.unassign name

/-! ### Reading a line -/

/-- The line at the front of a text, each character with whether a backslash took its meaning,
whether a line feed ends it, and the text after it. -/
def spanLine (raw : Bool) : Octets → List Glyph × Bool × Octets
  | [] => ([], false, [])
  | '\n' :: rest => ([], true, rest)
  | '\\' :: c :: rest =>
    if raw then
      if c = '\n' then ([('\\', false)], true, rest)
      else
        let (line, ended, rest) := spanLine raw (c :: rest)
        (('\\', false) :: line, ended, rest)
    else
      let (line, ended, rest) := spanLine raw rest
      (if c = '\n' then line else (c, true) :: line, ended, rest)
  | c :: rest =>
    let (line, ended, rest) := spanLine raw rest
    ((c, false) :: line, ended, rest)
termination_by text => text.length

def isSeparator (separators : Octets) (g : Glyph) : Bool := !g.2 && separators.contains g.1

def isSpacing (separators : Octets) (g : Glyph) : Bool :=
  isSeparator separators g && Element.isBlank g.1

/-- The first field of a line, and what follows its separator. -/
def spanField (separators : Octets) (line : List Glyph) : List Glyph × List Glyph :=
  let field := line.takeWhile (!isSeparator separators ·)
  let rest := (line.drop field.length).dropWhile (isSpacing separators)
  let rest := if rest.head?.any (isSeparator separators) then rest.tail else rest
  (field, rest.dropWhile (isSpacing separators))

/-- A field for each name but the last one, which gets what is left. -/
def distribute (separators : Octets) : List Octets → List Glyph → List (Octets × Octets)
  | [], _ => []
  | [name], line =>
    let (field, rest) := spanField separators line
    let whole := (line.reverse.dropWhile (isSpacing separators)).reverse
    [(name, (if rest.isEmpty then field else whole).map (·.1))]
  | name :: names, line =>
    let (field, rest) := spanField separators line
    (name, field.map (·.1)) :: distribute separators names rest

/-- Reads a line of the input into variables. -/
def readLine (s : State) (line : Nat) (args : List Octets) : State :=
  let args := match args with
    | ['-', 'p'] :: _ :: rest => rest
    | args => args
  let options := args.takeWhile fun a => a.head? = some '-'
  let names := args.drop options.length
  let unknown? := (options.flatMap List.tail).find? (· ≠ 'r')
  match unknown?, names.find? (!Reader.isName ·) with
  | some c, _ => s.complainWith line 2 (inName "read" ("Illegal option -".toList ++ [c]))
  | _, some name => s.complainWith line 2 (inName "read" (name ++ ": bad variable name".toList))
  | none, none =>
    if names.isEmpty then s.complainWith line 2 "read: arg count".toList
    else
      let (glyphs, ended, rest) := spanLine (options.any (·.contains 'r')) s.input
      let values := distribute s.separators names
        (glyphs.dropWhile (isSpacing s.separators))
      match names.find? s.fixed.contains with
      | some name => s.complainWith line 2 (inName "read" (name ++ ": is read only".toList))
      | none =>
        let after := values.foldl (fun (s : State) (name, value) => s.assign name value)
          { s with input := rest }
        after.succeedIf ended

/-! ### Arguments and options -/

def shift (s : State) (line : Nat) (args : List Octets) : State :=
  match args with
  | [] => go s 1
  | arg :: _ =>
    match Octets.toNat? arg with
    | some n => go s n
    | none => s.abort line (inName "shift" ("Illegal number: ".toList ++ arg))
where
  go (s : State) (n : Nat) : State :=
    if n ≤ s.arguments.length then { s with arguments := s.arguments.drop n, status := 0 }
    else s.abort line "shift: can't shift that many".toList

/-- The letters of the options, in the order in which they are shown. -/
def optionLetters : List Char := ['u', 'a', 'C', 'v', 'x', 's', 'n', 'm', 'i', 'f', 'e']

def optionNames : List (String × Char) := [
  ("errexit", 'e'), ("noglob", 'f'), ("nounset", 'u'), ("xtrace", 'x'), ("verbose", 'v'),
  ("noexec", 'n'), ("noclobber", 'C'), ("allexport", 'a')]

/-- Takes over the options in front of arguments, up to one that there is not. -/
def setOptions (s : State) (args : List Octets) : Except Octets (State × List Octets) :=
  match args with
  | (sign :: c :: flags) :: rest =>
    if sign ≠ '-' ∧ sign ≠ '+' then .ok (s, args)
    else if sign = '-' ∧ c = '-' ∧ flags = [] then .ok (s, rest)
    else
      match (c :: flags).find? (!('o' :: 'c' :: optionLetters).contains ·) with
      | some letter => .error ("Illegal option -".toList ++ [letter])
      | none =>
        let s := (c :: flags).foldl (fun s letter =>
          if optionLetters.contains letter then s.setOption letter (sign = '-') else s) s
        if (c :: flags).contains 'o' then
          match rest with
          | [] => .ok (s, [])
          | name :: rest =>
            match optionNames.find? (·.1 = String.ofList name) with
            | some (_, letter) => setOptions (s.setOption letter (sign = '-')) rest
            | none => .error ("Illegal option -o ".toList ++ name)
        else setOptions s rest
  | args => .ok (s, args)
termination_by args.length

def set (s : State) (line : Nat) (args : List Octets) : State :=
  match setOptions s args with
  | .error message => s.abort line (inName "set" message)
  | .ok (after, rest) =>
    let replaces := !rest.isEmpty || args.contains ['-', '-']
    { after with arguments := if replaces then rest else s.arguments, status := 0 }

/-! ### Options of scripts -/

/-- The options that a script reads from its own arguments one by one: the next one goes to a
variable, and its argument to `OPTARG`. -/
def getOption (s : State) (line : Nat) (args : List Octets) : State :=
  match args with
  | letters :: target :: rest =>
    let words := if rest.isEmpty then s.arguments else rest
    let quiet := letters.head? = some ':'
    let value (name : String) : Nat := ((s.value? name.toList).bind Octets.toNat?).getD 1
    let index := value "OPTIND"
    let place := s.optionPlace
    let word := words.getD (index - 1) []
    let next (s : State) (index place : Nat) : State :=
      { s.assign "OPTIND".toList (Octets.ofNat index) with optionPlace := place }
    let finish (s : State) : State := ((s.assign target ['?']).withStatus 1)
    match word.drop (if place = 0 then 1 else place) with
    | [] => finish (next s index 0)
    | c :: more =>
      if place = 0 ∧ word.head? ≠ some '-' then finish (next s index 0)
      else if place = 0 ∧ word = ['-', '-'] then finish (next s (index + 1) 0)
      else
        let after := if more.isEmpty then next s (index + 1) 0
          else next s index ((if place = 0 then 1 else place) + 1)
        match letters.dropWhile (· ≠ c) with
        | [] => unknown after quiet target c
        | _ :: following =>
          if c = ':' then unknown after quiet target c
          else if following.head? ≠ some ':' then
            ((after.unassign "OPTARG".toList).assign target [c]).withStatus 0
          else if !more.isEmpty then
            (((next s (index + 1) 0).assign "OPTARG".toList more).assign target [c]).withStatus 0
          else
            match words[index]? with
            | some argument =>
              (((next s (index + 2) 0).assign "OPTARG".toList argument).assign target
                [c]).withStatus 0
            | none =>
              if quiet then
                ((after.assign "OPTARG".toList [c]).assign target [':']).withStatus 0
              else
                (((after.write 2 ("No arg for -".toList ++ c :: " option\n".toList)).unassign
                  "OPTARG".toList).assign target ['?']).withStatus 0
  | _ => s.complainWith line 2 "getopts: Usage: getopts optstring var [arg]".toList
where
  unknown (s : State) (quiet : Bool) (target : Octets) (c : Char) : State :=
    let s :=
      if quiet then s.assign "OPTARG".toList [c]
      else (s.write 2 ("Illegal option -".toList ++ [c, '\n'])).unassign "OPTARG".toList
    (s.assign target ['?']).withStatus 0

end Builtin

end LintChain.Shell

import LintChain.Path
import LintChain.Text.Split

/-!
The command line. Options may stand anywhere before `--`, each at most once; short options may be
written together. The first request for help or the version ends the reading, and so does the first
mistake.
-/

namespace LintChain

/-- What the command line asks for. -/
structure Arguments where
  bootstrap : Bool
  verbose : Bool
  jobs? : Option Nat
  paths : List Path
  deriving DecidableEq

def Arguments.empty : Arguments := ⟨false, false, none, []⟩

inductive Request
  | lint (arguments : Arguments)
  | help
  | version
  /-- A mistake in the command line. -/
  | misuse
  deriving DecidableEq

namespace CommandLine

def versionText : String := "polylint 0.1.0\n"

def helpText : String :=
  "Run a fixed chain of Python linters and fixers with one CI-friendly exit code\n\n" ++
  "Usage: polylint [OPTIONS] [PATHS]...\n\n" ++
  "Arguments:\n" ++
  "  [PATHS]...  Files and directories to lint\n\n" ++
  "Options:\n" ++
  "      --bootstrap    Verify that every enabled tool is installed and report progress\n" ++
  "  -v, --verbose      Enable debug logging\n" ++
  "  -j, --jobs <JOBS>  Number of files linted concurrently\n" ++
  "  -h, --help         Print help\n" ++
  "  -V, --version      Print version\n"

/-- The largest number of jobs. -/
def maxJobs : Nat := 18446744073709551615

/-- A number of jobs, from 1 on, with a plus sign in front if one likes. -/
def jobs? (text : List Char) : Option Nat :=
  let digits : List Char := match text with
    | '+' :: rest => rest
    | _ => text
  let n := digits.foldl (fun n c => n * 10 + (c.toNat - '0'.toNat)) 0
  if digits ≠ [] ∧ digits.all Char.isDigit ∧ 1 ≤ n ∧ n ≤ maxJobs then some n else none

def setBootstrap (a : Arguments) : Option Arguments :=
  if a.bootstrap then none else some { a with bootstrap := true }

def setVerbose (a : Arguments) : Option Arguments :=
  if a.verbose then none else some { a with verbose := true }

def setJobs (a : Arguments) (text : List Char) : Option Arguments :=
  if a.jobs?.isSome then none else (jobs? text).map fun n => { a with jobs? := some n }

def addPath (a : Arguments) (text : List Char) : Option Arguments :=
  if text = [] then none else some { a with paths := a.paths ++ [⟨String.ofList text⟩] }

/-- What one argument amounts to. -/
inductive Effect
  | go (a : Arguments)
  /-- The next argument is the number of jobs. -/
  | wantJobs (a : Arguments)
  | stop (r : Request)

def Effect.ofOption : Option Arguments → Effect
  | some a => .go a
  | none => .stop .misuse

/-- An option behind two hyphens. -/
def longOption (a : Arguments) (text : List Char) : Effect :=
  let name := text.takeWhile (· ≠ '=')
  let value? := if name.length < text.length then some (text.drop (name.length + 1)) else none
  match String.ofList name, value? with
  | "bootstrap", none => .ofOption (setBootstrap a)
  | "verbose", none => .ofOption (setVerbose a)
  | "jobs", some value => .ofOption (setJobs a value)
  | "jobs", none => .wantJobs a
  | "help", none => .stop .help
  | "version", none => .stop .version
  | _, _ => .stop .misuse

/-- Options of one letter behind one hyphen. -/
def shortOptions (a : Arguments) : List Char → Effect
  | [] => .go a
  | 'v' :: rest =>
    match setVerbose a with
    | some a => shortOptions a rest
    | none => .stop .misuse
  | 'j' :: [] => .wantJobs a
  | 'j' :: '=' :: value => .ofOption (setJobs a value)
  | 'j' :: value => .ofOption (setJobs a value)
  | 'h' :: _ => .stop .help
  | 'V' :: _ => .stop .version
  | _ :: _ => .stop .misuse

def readArgument (a : Arguments) (text : List Char) : Effect :=
  match text with
  | '-' :: '-' :: name => longOption a name
  | '-' :: c :: rest => shortOptions a (c :: rest)
  | _ => .ofOption (addPath a text)

/-- Reads the arguments behind `--`, all of them paths. -/
def readPaths (a : Arguments) : List (List Char) → Request
  | [] => .lint a
  | text :: rest =>
    match addPath a text with
    | some a => readPaths a rest
    | none => .misuse

def readAll (a : Arguments) : List (List Char) → Request
  | [] => .lint a
  | text :: rest =>
    if text = ['-', '-'] then readPaths a rest
    else
      match readArgument a text with
      | .go a => readAll a rest
      | .stop r => r
      | .wantJobs a =>
        match rest with
        | [] => .misuse
        | value :: rest =>
          match setJobs a value with
          | some a => readAll a rest
          | none => .misuse

def read (args : List String) : Request := readAll .empty (args.map String.toList)

end CommandLine

end LintChain

import LintChain.Duration
import LintChain.Path

/-!
What a run asks of the machine it runs on: looks at its files, and processes. A machine has states
`σ`; looking leaves the state as it is, a process or a pause may change everything.
-/

namespace LintChain

/-- Why the operating system refuses. -/
inductive SystemError
  | notFound
  | badFormat
  | denied
  | exists
  | notDirectory
  | isDirectory
  | nameTooLong
  | notEmpty
  | tooManyLinks
  /-- A path holds a zero byte. -/
  | zeroInPath
  /-- The program, an argument, a variable or the directory of a process holds a zero byte. -/
  | zeroInCommand
  deriving DecidableEq, Repr

def SystemError.text : SystemError → String
  | notFound => "No such file or directory"
  | badFormat => "Exec format error"
  | denied => "Permission denied"
  | .exists => "File exists"
  | notDirectory => "Not a directory"
  | isDirectory => "Is a directory"
  | nameTooLong => "File name too long"
  | notEmpty => "Directory not empty"
  | tooManyLinks => "Too many levels of symbolic links"
  | zeroInPath => "file name contained an unexpected NUL byte"
  | zeroInCommand => "nul byte found in provided data"

/-- The number of an error; none for what is refused before the system is asked. -/
def SystemError.code? : SystemError → Option Nat
  | notFound => some 2
  | badFormat => some 8
  | denied => some 13
  | .exists => some 17
  | notDirectory => some 20
  | isDirectory => some 21
  | nameTooLong => some 36
  | notEmpty => some 39
  | tooManyLinks => some 40
  | zeroInPath => none
  | zeroInCommand => none

def SystemError.message (e : SystemError) : String :=
  match e.code? with
  | some code => e.text ++ " (os error " ++ toString code ++ ")"
  | none => e.text

/-- What a path leads to when links are followed. -/
inductive FileKind
  | file
  | directory
  | other
  deriving DecidableEq, Repr

/-- What is found below a directory when no link is followed, in the order of the listings. -/
inductive Listing
  | file
  /-- Neither a file nor a directory, such as a link. -/
  | other
  | unreadable (reason : SystemError)
  | directory (entries : List (String × Listing))

/-- A process to be started. -/
structure Command where
  program : Path
  args : List String
  cwd : Path
  /-- Set on top of the inherited variables. -/
  bindings : List (String × String)
  timeout? : Option Duration
  deriving DecidableEq

def holdsZero (text : String) : Bool := text.contains '\x00'

/-- Whether any text that a process is started with holds a zero byte. -/
def Command.holdsZero (c : Command) : Bool :=
  LintChain.holdsZero c.program.text || c.args.any LintChain.holdsZero ||
    LintChain.holdsZero c.cwd.text ||
    c.bindings.any fun (name, value) => LintChain.holdsZero name || LintChain.holdsZero value

/-- What a process left behind. -/
structure Output where
  /-- Absent when a signal ended the process. -/
  code? : Option Int
  stdout : String
  stderr : String
  deriving DecidableEq

/-- Why nothing is known of the end of a process. -/
inductive ProcessError
  /-- The process could not be started. -/
  | notStarted (reason : SystemError)
  /-- The process was started, but its end could not be waited for. -/
  | notAwaited (reason : SystemError)
  deriving DecidableEq

structure Host (σ : Type) where
  /-- What a path leads to, if to anything. -/
  kind? : σ → Path → Option FileKind
  list : σ → Path → Listing
  /-- The path of the same file without links, `.` and `..`. -/
  canonical? : σ → Path → Option Path
  read : σ → Path → Except SystemError ByteArray
  /-- Whether a path leads to a file that may be executed. -/
  isExecutable : σ → Path → Bool
  /-- Runs a process to its end. -/
  run : Command → σ → Except ProcessError Output × σ
  /-- Runs a process to its end or for a span, after which it is killed. -/
  runWithin : Duration → Command → σ → Except ProcessError (Option Output) × σ
  pause : Duration → σ → σ

namespace Host

variable {σ : Type}

def isFile (host : Host σ) (state : σ) (path : Path) : Bool := host.kind? state path = some .file

end Host

end LintChain

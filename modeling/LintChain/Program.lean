import LintChain.CommandLine
import LintChain.LogFilter
import LintChain.Run
import LintChain.Writer.Limited

/-!
The program as it is called from a command line.
-/

namespace LintChain

/-- How the program ended. -/
structure Exit where
  code : Nat
  stdout : String
  /-- The filter in force, if it lets its own announcement pass. -/
  logFilter? : Option String
  /-- The warnings that pass the filter. -/
  warnings : List Warning

namespace Program

/-- The exit code of a program that cannot go on. -/
def abortCode : Nat := 101

def invocation (cwd : Path) (a : Arguments) : Invocation :=
  ⟨cwd, a.paths, a.bootstrap, a.jobs?, none⟩

variable {σ : Type}

def lint (host : Host σ) (env : Environment) (machine : σ) (filterText : String)
    (filter : LogFilter) (a : Arguments) : Exit × σ :=
  let setting : Setting σ LimitedText := ⟨host, env, LimitedText.writer⟩
  let (result, progress) :=
    setting.run (invocation env.directory a) ⟨.begin machine, .unlimited⟩
  let code := match result with
    | .ok code => code
    | .error (.workers _) => abortCode
    | .error _ => 1
  let warnings := progress.session.warnings.filter filter.shows
  (⟨code, progress.out.text, if filter.showsAnnouncement then some filterText else none,
    warnings⟩, progress.session.machine)

/-- Runs the program with its arguments. -/
def run (host : Host σ) (env : Environment) (machine : σ) (args : List String) : Exit × σ :=
  let stop (code : Nat) (text : String) : Exit × σ := (⟨code, text, none, []⟩, machine)
  match CommandLine.read args with
  | .misuse => stop 2 ""
  | .help => stop 0 CommandLine.helpText
  | .version => stop 0 CommandLine.versionText
  | .lint a =>
    let text := LogFilter.choose (env.get? "POLYLINT_LOG") (env.get? "RUST_LOG") a.verbose
    match LogFilter.parse? text with
    | none => stop abortCode ""
    | some filter => lint host env machine text filter a

end Program

end LintChain

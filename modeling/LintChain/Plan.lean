import LintChain.Discovery
import LintChain.Environment
import LintChain.Report
import LintChain.Sha256

/-!
The chain of tools and its work on files. On one file the tools run one after the other, so that
each sees what the one before it wrote; every invocation stands between two snapshots of the file.
-/

namespace LintChain

/-- An enabled linter with the program that its probe found. -/
structure PlannedLinter where
  linter : ResolvedLinter
  program : Path

structure Plan where
  cwd : Path
  /-- In canonical order. -/
  linters : List PlannedLinter
  /-- How many files are linted at a time, unless the machine is to decide. -/
  jobs? : Option Nat
  timeout? : Option Duration

/-- More workers than can be counted were asked for. -/
structure TooManyWorkers where
  jobs : Nat
  deriving DecidableEq

namespace Plan

/-- The program that the first successful probe of a linter found. -/
def program? (report : BootstrapReport) (linter : Linter) : Option Path :=
  report.results.findSome? fun probed =>
    match probed.outcome with
    | .available program _ => if probed.linter = linter then some program else none
    | _ => none

def planned? (report : BootstrapReport) (linter : ResolvedLinter) : Option PlannedLinter :=
  (program? report linter.linter).map fun program => ⟨linter, program⟩

/-- The enabled linters that a bootstrap found usable, with a warning for each other one. -/
def ofBootstrap (config : Config) (cwd : Path) (report : BootstrapReport) : Plan × List Warning :=
  (⟨cwd, config.enabledLinters.filterMap (planned? report), config.jobs?, config.timeout?⟩,
   (config.enabledLinters.filter fun r => (program? report r.linter).isNone).map fun r =>
    .notBootstrapped r.linter)

end Plan

/-- The digest of a file's content at one moment. -/
abbrev Snapshot := Sha256.State

namespace Snapshot

variable {σ : Type}

def take (host : Host σ) (state : σ) (path : Path) : Except SystemError Snapshot :=
  (host.read state path).map Sha256.digest

/-- What is said of a file that cannot be read. -/
def failure (path : Path) (reason : SystemError) : String :=
  "Failed to read '" ++ path.text ++ "': " ++ reason.message

end Snapshot

namespace Plan

variable {σ : Type}

def command (plan : Plan) (planned : PlannedLinter) (target : Target)
    (bindings : List (String × String)) : Command :=
  ⟨planned.program, planned.linter.args ++ [target.path.text], plan.cwd, bindings, plan.timeout?⟩

/-- The status that the end of a process amounts to, whatever became of the file. -/
def statusOfResult (spec : Spec) (changed : Bool) : Except CommandError Output → Status
  | .ok output => spec.classify output.code? changed
  | .error (.timedOut _ after) => .toolError (.timedOut after)
  | .error e => .toolError (.processFailed e.message)

/-- The result of an invocation on a file that was readable before it. -/
def judge (linter : Linter) (absolute : Path) (before : Snapshot)
    (result : Except CommandError Output) (after : Except SystemError Snapshot) : ToolResult :=
  let changed := match after with
    | .ok snapshot => decide (snapshot ≠ before)
    | .error _ => true
  let status := match after with
    | .ok _ => statusOfResult linter.spec changed result
    | .error reason => .toolError (.fileUnavailable (Snapshot.failure absolute reason))
  match result with
  | .ok output => ⟨linter, output.stdout, output.stderr, output.code?, status, changed⟩
  | .error _ => ⟨linter, "", "", none, status, changed⟩

/-- Runs one linter on one file. -/
def invoke (host : Host σ) (env : Environment) (plan : Plan) (planned : PlannedLinter)
    (target : Target) (s : Session σ) : ToolResult × Session σ :=
  let linter := planned.linter.linter
  match Snapshot.take host s.machine target.absolute with
  | .error reason => (.fileUnavailable linter (Snapshot.failure target.absolute reason), s)
  | .ok before =>
    let (bindings, warnings) := env.toolVariables linter
    let (result, s) := (s.warn warnings).run host (plan.command planned target bindings)
    (judge linter target.absolute before result (Snapshot.take host s.machine target.absolute), s)

/-- Runs linters on one file, one after the other. -/
def invokeAll (host : Host σ) (env : Environment) (plan : Plan) (target : Target) :
    List PlannedLinter → Session σ → List ToolResult × Session σ
  | [], s => ([], s)
  | planned :: rest, s =>
    let (result, s) := invoke host env plan planned target s
    let (results, s) := invokeAll host env plan target rest s
    (result :: results, s)

/-- The planned linters that are to see a file. -/
def lintersFor (plan : Plan) (target : Target) : List PlannedLinter :=
  plan.linters.filter fun planned => planned.linter.includes target.path.text

def lintFile (host : Host σ) (env : Environment) (plan : Plan) (target : Target) (s : Session σ) :
    FileReport × Session σ :=
  let (results, s) := invokeAll host env plan target (plan.lintersFor target) s
  (⟨target.path, results⟩, s)

def lintFiles (host : Host σ) (env : Environment) (plan : Plan) :
    List Target → Session σ → List FileReport × Session σ
  | [], s => ([], s)
  | target :: rest, s =>
    let (report, s) := lintFile host env plan target s
    let (reports, s) := lintFiles host env plan rest s
    (report :: reports, s)

/-- The largest number of workers that can be counted. -/
def maxWorkers : Nat := 2305843009213693951

/-- Lints every file, if there are not too many workers. -/
def execute (host : Host σ) (env : Environment) (plan : Plan) (targets : List Target)
    (s : Session σ) : Except TooManyWorkers (List FileReport) × Session σ :=
  match plan.jobs?.filter (maxWorkers < ·) with
  | some jobs => (.error ⟨jobs⟩, s)
  | none =>
    let (reports, s) := lintFiles host env plan targets s
    (.ok reports, s)

end Plan

end LintChain

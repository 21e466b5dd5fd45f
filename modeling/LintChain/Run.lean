import LintChain.Bootstrap
import LintChain.Config.Resolve
import LintChain.Plan
import LintChain.Report.Lines
import LintChain.Writer.Basic

/-!
A whole run: the configuration is resolved, the arguments become files, every enabled tool is
probed, and the chain works on the files, the report being written as it comes. A missing or broken
tool ends the run before any file is touched. The exit code is 0 when every tool passed on every
file, and 1 otherwise.
-/

namespace LintChain

/-- What is asked for on the command line. -/
structure Invocation where
  /-- Where the manifest is looked for and what relative paths start from. -/
  cwd : Path
  paths : List Path
  /-- Whether progress of the probes is reported, even when there is nothing to lint. -/
  bootstrap : Bool
  /-- In place of the configured number of workers. -/
  jobs? : Option Nat
  /-- In place of the search path of the environment. -/
  searchPath? : Option String

/-- Why a run has no report. -/
inductive LintError
  | config (e : ConfigError)
  | bootstrap (report : BootstrapReport)
  | write (e : WriteError)
  | workers (e : TooManyWorkers)

/-- The message on tools that cannot be used. -/
def BootstrapReport.message (report : BootstrapReport) : String :=
  toString report.failures.length ++ " tool(s) failed to bootstrap"

/-- What a run works with. -/
structure Setting (σ ω : Type) where
  host : Host σ
  env : Environment
  writer : Writer ω

/-- How far a run has come. -/
structure Progress (σ ω : Type) where
  session : Session σ
  out : ω

/-- A part of a run, which may end it. -/
abbrev Stage (σ ω α : Type) := ExceptT LintError (StateM (Progress σ ω)) α

namespace Setting

variable {σ ω : Type} (m : Setting σ ω)

/-- A part of a run that writes. -/
def writing (act : ω → Except WriteError Unit × ω) : Stage σ ω Unit := fun p =>
  let (result, out) := act p.out
  (result.mapError .write, { p with out })

/-- A part of a run that works on the machine. -/
def working {α : Type} (act : Session σ → α × Session σ) : Stage σ ω α := fun p =>
  let (a, session) := act p.session
  (.ok a, { p with session })

def writeLines (lines : List Line) : Stage σ ω Unit := writing (m.writer.writeLines lines)

def flush : Stage σ ω Unit := writing m.writer.flush

def resolveConfig (inv : Invocation) : Stage σ ω Config := do
  let config ← working fun s =>
    let (warnings, config) := Config.resolve m.host s.machine m.env inv.cwd
    (config, s.warn warnings)
  match config with
  | .error e => throw (.config e)
  | .ok config => return { config with jobs? := inv.jobs?.orElse fun _ => config.jobs? }

def discover (inv : Invocation) (config : Config) : Stage σ ω (List Target) :=
  working fun s =>
    let (targets, warnings) := Discovery.discover m.host s.machine config inv.cwd inv.paths
    (targets, s.warn warnings)

def probeSettings (inv : Invocation) (config : Config) : ProbeSettings :=
  ⟨inv.cwd, inv.searchPath?, config.retry, config.timeout?⟩

/-- Probes the enabled tools, and ends the run unless all can be used. -/
def bootstrap (inv : Invocation) (config : Config) : Stage σ ω BootstrapReport := do
  let report ← working (Bootstrap.run m.host m.env (probeSettings inv config) config)
  if report.isSuccess then return report else throw (.bootstrap report)

/-- Runs the chain on the files. -/
def lintTargets (inv : Invocation) (config : Config) (report : BootstrapReport)
    (targets : List Target) : Stage σ ω (List FileReport) := do
  let files ← working fun s =>
    let (plan, warnings) := Plan.ofBootstrap config inv.cwd report
    plan.execute m.host m.env targets (s.warn warnings)
  match files with
  | .error e => throw (.workers e)
  | .ok files => return files

/-- Says which files are linted. -/
def writeTargets (targets : List Target) : Stage σ ω Unit :=
  m.writeLines (Report.fileListLines (targets.map (·.path)))

/-- The part of a run that starts processes. -/
def lintDiscovered (inv : Invocation) (config : Config) (targets : List Target) :
    Stage σ ω RunReport := do
  if inv.bootstrap then
    m.writeLines (Report.progressLines (config.enabledLinters.map (·.linter)))
  let report ← m.bootstrap inv config
  if inv.bootstrap then
    m.writeLines [.ofText Report.bootstrapSucceeded]
  m.writeTargets targets
  if targets.isEmpty then
    return ⟨report, []⟩
  else
    let files ← m.lintTargets inv config report targets
    let run : RunReport := ⟨report, files⟩
    m.writeLines (Report.runLines run)
    m.flush
    return run

/-- Runs the chain and writes the report. -/
def lint (inv : Invocation) : Stage σ ω RunReport := do
  let config ← m.resolveConfig inv
  let targets ← m.discover inv config
  if targets.isEmpty && !inv.bootstrap then
    m.writeTargets targets
    return .empty
  else
    m.lintDiscovered inv config targets

/-- The last lines of a run that has no report. -/
def closingLines : LintError → List Line
  | .config e => [⟨e.pieces⟩]
  | .bootstrap report => Report.failureLines report
  | .write _ => [.ofText Report.lintFailed]
  | .workers _ => []

/-- Runs the chain and comes to the exit code. -/
def run (inv : Invocation) : Stage σ ω Nat := do
  try
    return (← m.lint inv).exitCode
  catch
    | .workers e => throw (.workers e)
    | e =>
      m.writeLines (closingLines e)
      return 1

end Setting

end LintChain

import LintChain.Config.Basic
import LintChain.Executable
import LintChain.Report
import LintChain.Session
import LintChain.Version

/-!
The check that every enabled tool can be used. A tool is looked up and probed with a cheap command;
a tool that fetches parts of itself is probed again, with growing pauses, until a probe succeeds or
the retries are used up. The last probe decides.
-/

namespace LintChain

/-- Where and how tools are looked up and probed. -/
structure ProbeSettings where
  cwd : Path
  /-- In place of the search path of the environment. -/
  searchPath? : Option String
  retry : RetryPolicy
  timeout? : Option Duration

/-- What one probe showed. -/
structure Probe where
  /-- Absent when the tool works. -/
  fault? : Option Fault
  stdout : String
  stderr : String
  deriving DecidableEq

namespace Probe

def faultOfCode : Option Int → Option Fault
  | some code => if code = 0 then none else some (.exited code)
  | none => some .signalled

def ofResult : Except CommandError Output → Probe
  | .ok output => ⟨faultOfCode output.code?, output.stdout, output.stderr⟩
  | .error (.timedOut _ after) => ⟨some (.timedOut after), "", ""⟩
  | .error e => ⟨some (.processFailed e.message), "", ""⟩

/-- The version that a probe tells, on its output if there is one there. -/
def version? (probe : Probe) : Option String :=
  (Version.find? probe.stdout).orElse fun _ => Version.find? probe.stderr

end Probe

namespace Bootstrap

variable {σ : Type}

def probeCommand (settings : ProbeSettings) (spec : Spec) (program : Path)
    (bindings : List (String × String)) : Command :=
  ⟨program, spec.probeArgs, settings.cwd, bindings, settings.timeout?⟩

/-- Probes until a probe succeeds or no retries are left, `attempt` being the number of retries so
far. -/
def probeUntil (host : Host σ) (command : Command) (policy : RetryPolicy) :
    (left : Nat) → (attempt : UInt32) → Session σ → Probe × UInt32 × Session σ
  | 0, attempt, s =>
    let (result, s) := s.run host command
    (.ofResult result, attempt, s)
  | left + 1, attempt, s =>
    let (result, s) := s.run host command
    let probe := Probe.ofResult result
    match probe.fault? with
    | none => (probe, attempt, s)
    | some _ =>
      probeUntil host command policy left (attempt + 1) (s.pause host (policy.delay attempt))

/-- What a working tool's probe says about its version. -/
def checkVersion (program : Path) (minimum? : Option String) (probe : Probe) :
    Outcome × List Warning :=
  match minimum? with
  | none => (.available program none, [])
  | some minimum =>
    match probe.version? with
    | none => (.available program none, [.unknownVersion program])
    | some found =>
      if Version.isOlder found minimum then (.broken (.versionTooOld found minimum), [])
      else (.available program (some found), [])

/-- The outcome that the last probe decides, after `attempt` retries. -/
def judge (spec : Spec) (program : Path) (probe : Probe) (attempt : UInt32) :
    Outcome × List Warning :=
  match probe.fault? with
  | none => checkVersion program spec.minimumVersion probe
  | some fault =>
    if spec.networkBootstrap then (.transientFailure (attempt + 1) fault, [])
    else (.broken fault, [])

def retries (settings : ProbeSettings) (spec : Spec) : Nat :=
  if spec.networkBootstrap then settings.retry.retries.toNat else 0

def probeLinter (host : Host σ) (env : Environment) (settings : ProbeSettings)
    (linter : ResolvedLinter) (s : Session σ) : Probed × Session σ :=
  let spec := linter.spec
  match Executable.find? host s.machine env settings.searchPath? settings.cwd linter.executable with
  | none => (⟨linter.linter, .missing, "", ""⟩, s)
  | some program =>
    let (bindings, warnings) := env.toolVariables linter.linter
    let command := probeCommand settings spec program bindings
    let (probe, attempt, s) :=
      probeUntil host command settings.retry (retries settings spec) 0 (s.warn warnings)
    let (outcome, warnings) := judge spec program probe attempt
    (⟨linter.linter, outcome, probe.stdout, probe.stderr⟩, s.warn warnings)

def probeAll (host : Host σ) (env : Environment) (settings : ProbeSettings) :
    List ResolvedLinter → Session σ → List Probed × Session σ
  | [], s => ([], s)
  | linter :: rest, s =>
    let (probed, s) := probeLinter host env settings linter s
    let (others, s) := probeAll host env settings rest s
    (probed :: others, s)

/-- Probes every enabled linter. -/
def run (host : Host σ) (env : Environment) (settings : ProbeSettings) (config : Config)
    (s : Session σ) : BootstrapReport × Session σ :=
  let (results, s) := probeAll host env settings config.enabledLinters s
  (⟨results⟩, s)

end Bootstrap

end LintChain

import LintChain.Proofs.Stages
import LintChain.Proofs.Workers

/-!
The courses that a run can take. The probes of all enabled linters go on side by side, and so does
the work on the files; what is written stands between them. A course lists what can be seen of this
from outside: the processes that are started, what the probes come to, and the parts of the output.
-/

namespace LintChain.Course

/-- The parts of the output, in the order in which they are written. -/
inductive Part
  | progress
  | verdict
  | fileList
  | results
  /-- The last lines of a run without a report. -/
  | closing
  deriving DecidableEq

/-- The parts before the results. -/
def Part.IsEarly : Part → Prop
  | progress | verdict | fileList => True
  | results | closing => False

inductive Act
  /-- A probe is started. -/
  | probe (command : Command)
  /-- The last probe of a linter has come to an end. -/
  | probed (result : Probed)
  /-- A linter is started on a file. -/
  | tool (command : Command)
  /-- All of a part has been written. -/
  | wrote (part : Part)
  /-- The writing of a part has been refused. -/
  | refused (part : Part)

/-- The process that an act starts. -/
def Act.command? : Act → Option Command
  | probe command | tool command => some command
  | _ => none

/-! ### Probes -/

/-- How far the probes of one linter have come. -/
inductive ProbeTask
  /-- The tool is still to be looked up. -/
  | waiting (linter : ResolvedLinter)
  /-- A probe is to be started, with as many retries left and used. -/
  | ready (linter : ResolvedLinter) (program : Path) (left : Nat) (attempt : UInt32)
  | running (linter : ResolvedLinter) (program : Path) (left : Nat) (attempt : UInt32)
  | done (result : Probed)

def ProbeTask.name : ProbeTask → Linter
  | waiting linter | ready linter .. | running linter .. => linter.linter
  | done result => result.linter

/-- The linter whose probes have not come to an end. -/
def ProbeTask.linter? : ProbeTask → Option ResolvedLinter
  | waiting linter | ready linter .. | running linter .. => some linter
  | done _ => none

section Probes

variable {σ : Type} (host : Host σ) (env : Environment) (settings : ProbeSettings)

/-- The process of a probe. -/
def probeCommand (linter : ResolvedLinter) (program : Path) : Command :=
  Bootstrap.probeCommand settings linter.spec program (env.toolVariables linter.linter).1

/-- What a probe shows when it is waited for. -/
def probeShown (linter : ResolvedLinter) (program : Path) (state : σ) : Probe :=
  .ofResult (host.perform (probeCommand env settings linter program) state).1

/-- What the probes of a linter come to by the last of them. -/
def probeResult (linter : ResolvedLinter) (program : Path) (attempt : UInt32) (probe : Probe) :
    Probed :=
  ⟨linter.linter, (Bootstrap.judge linter.spec program probe attempt).1, probe.stdout,
    probe.stderr⟩

/-- One step of the probes of one linter. -/
inductive ProbeStep : ProbeTask → Session σ → Option Act → ProbeTask → Session σ → Prop
  | missing {linter : ResolvedLinter} {s : Session σ}
      (hnone : Executable.find? host s.machine env settings.searchPath? settings.cwd
        linter.executable = none) :
      ProbeStep (.waiting linter) s (some (.probed ⟨linter.linter, .missing, "", ""⟩))
        (.done ⟨linter.linter, .missing, "", ""⟩) s
  | found {linter : ResolvedLinter} {program : Path} {s : Session σ}
      (hsome : Executable.find? host s.machine env settings.searchPath? settings.cwd
        linter.executable = some program) :
      ProbeStep (.waiting linter) s none
        (.ready linter program (Bootstrap.retries settings linter.spec) 0)
        (s.warn (env.toolVariables linter.linter).2)
  | launch {linter : ResolvedLinter} {program : Path} {left : Nat} {attempt : UInt32}
      {s : Session σ} :
      ProbeStep (.ready linter program left attempt) s
        (some (.probe (probeCommand env settings linter program)))
        (.running linter program left attempt)
        (s.record (.started (probeCommand env settings linter program)))
  | retry {linter : ResolvedLinter} {program : Path} {left : Nat} {attempt : UInt32}
      {s : Session σ} {fault : Fault}
      (hfault : (probeShown host env settings linter program s.machine).fault? = some fault) :
      ProbeStep (.running linter program (left + 1) attempt) s none
        (.ready linter program left (attempt + 1))
        ((s.await host (probeCommand env settings linter program)).2.pause host
          (settings.retry.delay attempt))
  | settle {linter : ResolvedLinter} {program : Path} {left : Nat} {attempt : UInt32}
      {s : Session σ}
      (hlast : (probeShown host env settings linter program s.machine).fault? = none ∨ left = 0) :
      ProbeStep (.running linter program left attempt) s
        (some (.probed (probeResult linter program attempt
          (probeShown host env settings linter program s.machine))))
        (.done (probeResult linter program attempt
          (probeShown host env settings linter program s.machine)))
        ((s.await host (probeCommand env settings linter program)).2.warn
          (Bootstrap.judge linter.spec program
            (probeShown host env settings linter program s.machine) attempt).2)

end Probes

/-! ### Runs -/

inductive Phase
  /-- A part is about to be written, and after it comes another phase. -/
  | writing (part : Part) (lines : List Line) (next : Phase)
  | probing (config : Config) (targets : List Target) (tasks : List ProbeTask)
  /-- The work on the files is about to begin. -/
  | engaging (config : Config) (targets : List Target) (report : BootstrapReport)
  | linting (config : Config) (targets : List Target) (report : BootstrapReport)
      (pool : Workers.Pool)
  | flushing (run : RunReport)
  | ended (result : Except LintError Nat)

/-- What follows on an error. -/
def failed : LintError → Phase
  | .workers e => .ended (.error (.workers e))
  | e => .writing .closing (Setting.closingLines e) (.ended (.ok 1))

/-- What follows on a refusal. -/
def refused : Part → WriteError → Phase
  | .closing, e => .ended (.error (.write e))
  | _, e => failed (.write e)

def writingIf (wanted : Bool) (part : Part) (lines : List Line) (next : Phase) : Phase :=
  if wanted then .writing part lines next else next

section Runs

variable {σ ω : Type} (m : Setting σ ω) (inv : Invocation) (cores : Nat)

def listing (config : Config) (targets : List Target) (report : BootstrapReport) : Phase :=
  .writing .fileList (Report.fileListLines (targets.map (·.path)))
    (if targets.isEmpty then .ended (.ok (RunReport.mk report []).exitCode)
      else .engaging config targets report)

/-- What follows once the files are known. -/
def opening (config : Config) (targets : List Target) : Phase :=
  if targets.isEmpty && !inv.bootstrap then listing config targets .empty
  else
    writingIf inv.bootstrap .progress (Report.progressLines (config.enabledLinters.map (·.linter)))
      (.probing config targets (config.enabledLinters.map .waiting))

/-- What follows once all probes have come to an end. -/
def assessed (config : Config) (targets : List Target) (report : BootstrapReport) : Phase :=
  if report.isSuccess then
    writingIf inv.bootstrap .verdict [.ofText Report.bootstrapSucceeded]
      (listing config targets report)
  else failed (.bootstrap report)

/-- Where the courses of a run begin: nothing can be seen of how the configuration and the files
are found. -/
def start (p : Progress σ ω) : Phase × Progress σ ω :=
  match m.configured inv p.session.machine with
  | .error e => (failed (.config e), { p with session := m.searched inv p.session })
  | .ok config =>
    (opening inv config (m.selected inv config p.session.machine),
      { p with session := m.prepared inv config p.session })

/-- One step of a run. Without a number of workers in the configuration there are as many as the
machine has `cores`. -/
inductive Move : Phase → Progress σ ω → Option Act → Phase → Progress σ ω → Prop
  | write {part : Part} {lines : List Line} {next : Phase} {p : Progress σ ω} {out : ω}
      (hwrite : m.writer.writeLines lines p.out = (.ok (), out)) :
      Move (.writing part lines next) p (some (.wrote part)) next { p with out }
  | refuse {part : Part} {lines : List Line} {next : Phase} {p : Progress σ ω} {e : WriteError}
      {out : ω} (hwrite : m.writer.writeLines lines p.out = (.error e, out)) :
      Move (.writing part lines next) p (some (.refused part)) (refused part e) { p with out }
  | probe {config : Config} {targets : List Target} {before after : List ProbeTask}
      {task task' : ProbeTask} {p : Progress σ ω} {session : Session σ} {act? : Option Act}
      (hstep : ProbeStep m.host m.env (Setting.probeSettings inv config) task p.session act? task'
        session) :
      Move (.probing config targets (before ++ task :: after)) p act?
        (.probing config targets (before ++ task' :: after)) { p with session }
  | assess {config : Config} {targets : List Target} {results : List Probed}
      {p : Progress σ ω} :
      Move (.probing config targets (results.map .done)) p none
        (assessed inv config targets ⟨results⟩) p
  | engage {config : Config} {targets : List Target} {report : BootstrapReport}
      {p : Progress σ ω} (hjobs : Plan.Countable config.jobs?) :
      Move (.engaging config targets report) p none
        (.linting config targets report (.start (Setting.plan inv config report) targets))
        { p with session := Setting.engaged inv config report p.session }
  | overload {config : Config} {targets : List Target} {report : BootstrapReport}
      {p : Progress σ ω} {jobs : Nat} (hjobs : config.jobs? = some jobs)
      (hlt : Plan.maxWorkers < jobs) :
      Move (.engaging config targets report) p none (failed (.workers ⟨jobs⟩))
        { p with session := Setting.engaged inv config report p.session }
  | work {config : Config} {targets : List Target} {report : BootstrapReport}
      {pool pool' : Workers.Pool} {p : Progress σ ω} {session : Session σ}
      {command? : Option Command}
      (hstep : Workers.Step m.host m.env (Setting.plan inv config report)
        (config.jobs?.getD cores) (pool, p.session) (pool', session))
      (hstarted : session.started = p.session.started ++ command?.toList) :
      Move (.linting config targets report pool) p (command?.map .tool)
        (.linting config targets report pool') { p with session }
  | gather {config : Config} {targets : List Target} {report : BootstrapReport}
      {pool : Workers.Pool} {p : Progress σ ω} (hfull : none ∉ pool.slots) :
      Move (.linting config targets report pool) p none
        (.writing .results (Report.runLines ⟨report, pool.reports⟩)
          (.flushing ⟨report, pool.reports⟩)) p
  | flush {run : RunReport} {p : Progress σ ω} {out : ω}
      (hflush : m.writer.flush p.out = (.ok (), out)) :
      Move (.flushing run) p none (.ended (.ok run.exitCode)) { p with out }
  | refuseFlush {run : RunReport} {p : Progress σ ω} {e : WriteError} {out : ω}
      (hflush : m.writer.flush p.out = (.error e, out)) :
      Move (.flushing run) p none (failed (.write e)) { p with out }

/-- Any number of steps, with all that can be seen of them. -/
inductive Moves (phase : Phase) (p : Progress σ ω) : List Act → Phase → Progress σ ω → Prop
  | refl : Moves phase p [] phase p
  | tail {acts : List Act} {act? : Option Act} {middle last : Phase} {q r : Progress σ ω}
      (hmoves : Moves phase p acts middle q) (hmove : Move m inv cores middle q act? last r) :
      Moves phase p (acts ++ act?.toList) last r

end Runs

end LintChain.Course

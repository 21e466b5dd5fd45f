import LintChain.Linter
import LintChain.Path
import LintChain.Status

/-!
The result of a run: the outcome of each probe, and for each file the results of the linters that
saw it, in the order in which they ran.
-/

namespace LintChain

/-- Why a probe was not accepted. -/
inductive Fault
  | exited (code : Int)
  | signalled
  | timedOut (after : Duration)
  | processFailed (message : String)
  | versionTooOld (found minimum : String)
  deriving DecidableEq

def Fault.message : Fault → String
  | .exited code => "exited " ++ toString code
  | .signalled => "terminated by a signal"
  | .timedOut after => "timed out after " ++ toString after.seconds ++ "s"
  | .processFailed message => "could not be run (" ++ message ++ ")"
  | .versionTooOld found minimum =>
    "version " ++ found ++ " is older than the minimum " ++ minimum

/-- What probing a tool came to. -/
inductive Outcome
  | available (program : Path) (version : Option String)
  | missing
  | broken (fault : Fault)
  /-- Every attempt at a probe that may fail for want of the network did fail. -/
  | transientFailure (attempts : UInt32) (fault : Fault)
  deriving DecidableEq

def Outcome.isAvailable : Outcome → Bool
  | .available .. => true
  | _ => false

/-- A probed linter with the output of its last probe. -/
structure Probed where
  linter : Linter
  outcome : Outcome
  stdout : String
  stderr : String
  deriving DecidableEq

/-- The probes of a run, one for each enabled linter in canonical order. -/
structure BootstrapReport where
  results : List Probed
  deriving DecidableEq

namespace BootstrapReport

def empty : BootstrapReport := ⟨[]⟩

def isSuccess (report : BootstrapReport) : Bool :=
  report.results.all (·.outcome.isAvailable)

def failures (report : BootstrapReport) : List Probed :=
  report.results.filter (!·.outcome.isAvailable)

theorem isSuccess_iff_failures_eq_nil {report : BootstrapReport} :
    report.isSuccess ↔ report.failures = [] := by
  simp [isSuccess, failures, List.filter_eq_nil_iff]

end BootstrapReport

/-- What was seen of running one linter on one file. -/
structure ToolResult where
  linter : Linter
  stdout : String
  stderr : String
  /-- Absent when the process was signalled, killed or never started. -/
  exitCode : Option Int
  status : Status
  /-- Whether the file's content differs after the invocation. -/
  changed : Bool
  deriving DecidableEq

/-- The result for a file that could not be read, so that no process was started. -/
def ToolResult.fileUnavailable (linter : Linter) (message : String) : ToolResult :=
  ⟨linter, "", "", none, .toolError (.fileUnavailable message), false⟩

structure FileReport where
  path : Path
  results : List ToolResult
  deriving DecidableEq

namespace FileReport

def empty (path : Path) : FileReport := ⟨path, []⟩

def status (report : FileReport) : Status := Status.worst (report.results.map (·.status))

def changed (report : FileReport) : Bool := report.results.any (·.changed)

end FileReport

structure RunReport where
  bootstrap : BootstrapReport
  files : List FileReport
  deriving DecidableEq

namespace RunReport

def empty : RunReport := ⟨.empty, []⟩

def isSuccess (report : RunReport) : Bool := report.files.all (·.status.isPass)

def exitCode (report : RunReport) : Nat := if report.isSuccess then 0 else 1

end RunReport

end LintChain

import LintChain.Duration

/-!
What one invocation of a tool on a file came to. Statuses are ranked: a pass, then findings, then
tool errors, which all rank the same.
-/

namespace LintChain

/-- Why an invocation counts as neither a pass nor a report of findings. -/
inductive ToolError
  | crashed (code : Int)
  | signalled
  | timedOut (after : Duration)
  | fileUnavailable (message : String)
  | processFailed (message : String)
  | unexpectedChange
  | ambiguousExit (code : Int)
  deriving DecidableEq

def ToolError.message : ToolError → String
  | .crashed code => "exited " ++ toString code
  | .signalled => "terminated by a signal"
  | .timedOut after => "timed out after " ++ toString after.seconds ++ "s"
  | .fileUnavailable message => "file unavailable (" ++ message ++ ")"
  | .processFailed message => "could not be run (" ++ message ++ ")"
  | .unexpectedChange => "was not expected to change files"
  | .ambiguousExit code =>
    "exited " ++ toString code ++ " claiming changes but the file is unchanged"

inductive Status
  | pass
  | findings
  | toolError (reason : ToolError)
  deriving DecidableEq

namespace Status

def isPass : Status → Bool
  | pass => true
  | _ => false

def isToolError : Status → Bool
  | toolError _ => true
  | _ => false

def severity : Status → Nat
  | pass => 0
  | findings => 1
  | toolError _ => 2

/-- The worse of two statuses, the later one when they rank the same. -/
def worse (a b : Status) : Status := if a.severity ≤ b.severity then b else a

/-- The worst status of a list, the last among equally bad ones, and a pass when there is none. -/
def worst (statuses : List Status) : Status := statuses.foldl worse pass

theorem isPass_iff {s : Status} : s.isPass ↔ s = pass := by
  cases s <;> simp [isPass]

@[simp] theorem worst_nil : worst [] = pass := rfl

end Status

end LintChain

import LintChain.Host
import LintChain.Warning

/-!
A run in progress: the state of the machine, and a journal of what the run did and warned about.
-/

namespace LintChain

inductive Event
  | started (command : Command)
  | paused (span : Duration)
  | warned (warning : Warning)
  deriving DecidableEq

structure Session (σ : Type) where
  machine : σ
  /-- Oldest first. -/
  journal : List Event

/-- Why a process has no output. -/
inductive CommandError
  | notStarted (program : Path) (reason : SystemError)
  | notAwaited (program : Path) (reason : SystemError)
  | timedOut (program : Path) (after : Duration)
  deriving DecidableEq

def CommandError.message : CommandError → String
  | notStarted program reason => "Failed to spawn '" ++ program.text ++ "': " ++ reason.message
  | notAwaited program reason =>
    "Failed to wait for '" ++ program.text ++ "': " ++ reason.message
  | timedOut program after =>
    "'" ++ program.text ++ "' did not finish within " ++ toString after.seconds ++ "s"

/-- What is told of a program whose process failed. -/
def CommandError.ofProcess (program : Path) : ProcessError → CommandError
  | .notStarted reason => notStarted program reason
  | .notAwaited reason => notAwaited program reason

@[simp] theorem CommandError.ofProcess_ne_timedOut (program : Path) (e : ProcessError)
    (program' : Path) (after : Duration) : ofProcess program e ≠ .timedOut program' after := by
  cases e <;> simp [ofProcess]

namespace Session

variable {σ : Type}

def begin (machine : σ) : Session σ := ⟨machine, []⟩

def record (s : Session σ) (e : Event) : Session σ := { s with journal := s.journal ++ [e] }

def warn (s : Session σ) (warnings : List Warning) : Session σ :=
  { s with journal := s.journal ++ warnings.map .warned }

def warnings (s : Session σ) : List Warning :=
  s.journal.filterMap fun
    | .warned w => some w
    | _ => none

/-- The processes that were started, in order. -/
def started (s : Session σ) : List Command :=
  s.journal.filterMap fun
    | .started c => some c
    | _ => none

def pauses (s : Session σ) : List Duration :=
  s.journal.filterMap fun
    | .paused d => some d
    | _ => none

def pause (host : Host σ) (span : Duration) (s : Session σ) : Session σ :=
  { s.record (.paused span) with machine := host.pause span s.machine }

/-- Starts a process and waits for its end, or as long as its timeout lets it run. -/
def run (host : Host σ) (command : Command) (s : Session σ) :
    Except CommandError Output × Session σ :=
  let s := s.record (.started command)
  match command.timeout? with
  | none =>
    let (result, machine) := host.run command s.machine
    (result.mapError (.ofProcess command.program), { s with machine })
  | some after =>
    let (result, machine) := host.runWithin after command s.machine
    let s := { s with machine }
    match result with
    | .error e => (.error (.ofProcess command.program e), s)
    | .ok none => (.error (.timedOut command.program after), s)
    | .ok (some output) => (.ok output, s)

@[simp] theorem warnings_begin (machine : σ) : (begin machine).warnings = [] := rfl

@[simp] theorem started_begin (machine : σ) : (begin machine).started = [] := rfl

@[simp] theorem warnings_warn (s : Session σ) (ws : List Warning) :
    (s.warn ws).warnings = s.warnings ++ ws := by
  simp only [warn, warnings, List.filterMap_append, List.filterMap_map]
  exact congrArg _ List.filterMap_some

@[simp] theorem started_warn (s : Session σ) (ws : List Warning) :
    (s.warn ws).started = s.started := by
  simp only [warn, started, List.filterMap_append, List.filterMap_map]
  exact (congrArg _ (List.filterMap_eq_nil_iff.2 fun _ _ => rfl)).trans (List.append_nil _)

end Session

end LintChain

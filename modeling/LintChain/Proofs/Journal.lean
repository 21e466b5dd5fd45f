import LintChain.Session
import Mathlib.Tactic.Common

/-!
What a process does to a session. The machine alone decides how a process ends and what it leaves
behind; the journal gains one entry, and nothing that is done with a session takes an entry away.
-/

namespace LintChain

variable {σ : Type}

/-- How a process ends, and the machine that it leaves. -/
def Host.perform (host : Host σ) (command : Command) (state : σ) :
    Except CommandError Output × σ :=
  match command.timeout? with
  | none =>
    let (result, state) := host.run command state
    (result.mapError (.ofProcess command.program), state)
  | some after =>
    match host.runWithin after command state with
    | (.error e, state) => (.error (.ofProcess command.program e), state)
    | (.ok none, state) => (.error (.timedOut command.program after), state)
    | (.ok (some output), state) => (.ok output, state)

namespace Session

/-- Waits for the end of a process that has been started. -/
def await (host : Host σ) (command : Command) (s : Session σ) :
    Except CommandError Output × Session σ :=
  let (result, machine) := host.perform command s.machine
  (result, { s with machine })

/-- Running a process is starting it and waiting for its end. -/
lemma run_eq_await (host : Host σ) (command : Command) (s : Session σ) :
    s.run host command = (s.record (.started command)).await host command := by
  simp only [Session.run, await, Host.perform]
  cases command.timeout? with
  | none => rfl
  | some after =>
    rcases h : host.runWithin after command s.machine with ⟨_ | _ | _, _⟩ <;> simp [record, h]

@[simp] lemma machine_await (host : Host σ) (command : Command) (s : Session σ) :
    (s.await host command).2.machine = (host.perform command s.machine).2 := rfl

@[simp] lemma fst_await (host : Host σ) (command : Command) (s : Session σ) :
    (s.await host command).1 = (host.perform command s.machine).1 := rfl

@[simp] lemma machine_warn (s : Session σ) (ws : List Warning) : (s.warn ws).machine = s.machine :=
  rfl

@[simp] lemma machine_record (s : Session σ) (e : Event) : (s.record e).machine = s.machine := rfl

@[simp] lemma started_await (host : Host σ) (command : Command) (s : Session σ) :
    (s.await host command).2.started = s.started := rfl

@[simp] lemma started_record (command : Command) (s : Session σ) :
    (s.record (.started command)).started = s.started ++ [command] := by
  simp [record, started]

@[simp] lemma started_pause (host : Host σ) (span : Duration) (s : Session σ) :
    (s.pause host span).started = s.started := by
  simp [pause, record, started]

end Session

end LintChain

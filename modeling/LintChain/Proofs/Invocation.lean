import LintChain.Plan
import LintChain.Proofs.Journal

/-!
The invocations of linters on one file. Each gives one result under the linter's own name, whatever
became of the process or the file, and starts a process only where the file could be read.
-/

namespace LintChain.Plan

variable {σ : Type} (host : Host σ) (env : Environment) (plan : Plan)

/-- The process that an invocation is about. -/
def toolCommand (planned : PlannedLinter) (target : Target) : Command :=
  plan.command planned target (env.toolVariables planned.linter.linter).1

/-- The process that an invocation starts: none where the file cannot be read before it. -/
def process? (planned : PlannedLinter) (target : Target) (state : σ) : Option Command :=
  match host.read state target.absolute with
  | .error _ => none
  | .ok _ => some (plan.toolCommand env planned target)

variable {host env plan} {planned : PlannedLinter} {target : Target} {s : Session σ}

lemma linter_judge (linter : Linter) (absolute : Path) (before : Snapshot)
    (result : Except CommandError Output) (after : Except SystemError Snapshot) :
    (judge linter absolute before result after).linter = linter := by
  unfold judge
  cases result <;> rfl

lemma invoke_of_unreadable {reason : SystemError}
    (h : host.read s.machine target.absolute = .error reason) :
    plan.invoke host env planned target s =
      (.fileUnavailable planned.linter.linter (Snapshot.failure target.absolute reason), s) := by
  simp [invoke, Snapshot.take, h, Except.map]

lemma invoke_of_readable {bytes : ByteArray}
    (h : host.read s.machine target.absolute = .ok bytes) :
    plan.invoke host env planned target s =
      let ended := (s.warn (env.toolVariables planned.linter.linter).2).run host
        (plan.toolCommand env planned target)
      (judge planned.linter.linter target.absolute (Sha256.digest bytes) ended.1
        (Snapshot.take host ended.2.machine target.absolute), ended.2) := by
  simp [invoke, Snapshot.take, h, Except.map, toolCommand]

/-- **A result for every invocation**, under the name of its linter. -/
@[simp] lemma linter_invoke : (plan.invoke host env planned target s).1.linter =
    planned.linter.linter := by
  cases h : host.read s.machine target.absolute with
  | error reason => rw [invoke_of_unreadable h]; rfl
  | ok bytes => rw [invoke_of_readable h]; exact linter_judge _ _ _ _ _

lemma started_invoke : (plan.invoke host env planned target s).2.started =
    s.started ++ (plan.process? host env planned target s.machine).toList := by
  unfold process?
  cases h : host.read s.machine target.absolute with
  | error reason => simp [invoke_of_unreadable h]
  | ok bytes => simp [invoke_of_readable h, Session.run_eq_await]

lemma eq_of_mem_process? {state : σ} {c : Command}
    (h : c ∈ plan.process? host env planned target state) :
    c = plan.toolCommand env planned target := by
  unfold process? at h
  split at h
  · cases h
  · exact (Option.mem_some.mp h).symm

/-! ### One linter after the other -/

lemma invokeAll_append (xs ys : List PlannedLinter) :
    plan.invokeAll host env target (xs ++ ys) s =
      let first := plan.invokeAll host env target xs s
      let second := plan.invokeAll host env target ys first.2
      (first.1 ++ second.1, second.2) := by
  induction xs generalizing s with
  | nil => rfl
  | cons x xs ih => simp [invokeAll, ih]

@[simp] lemma map_linter_invokeAll (xs : List PlannedLinter) :
    (plan.invokeAll host env target xs s).1.map (·.linter) = xs.map (·.linter.linter) := by
  induction xs generalizing s with
  | nil => rfl
  | cons x xs ih => simp [invokeAll, ih]

lemma lintFile_eq : plan.lintFile host env target s =
    (⟨target.path, (plan.invokeAll host env target (plan.lintersFor target) s).1⟩,
      (plan.invokeAll host env target (plan.lintersFor target) s).2) := rfl

lemma mem_lintersFor : planned ∈ plan.lintersFor target ↔
    planned ∈ plan.linters ∧ planned.linter.includes target.path.text := by
  simp [lintersFor]

/-! ### One file after the other -/

variable {targets : List Target}

/-- **A result for every pair**: one report for each file, in the order of the files, and in it one
result for each linter that is to see the file, in the order of the plan. -/
lemma map_lintFiles : (plan.lintFiles host env targets s).1.map
      (fun file => (file.path, file.results.map (·.linter))) =
    targets.map fun target => (target.path, (plan.lintersFor target).map (·.linter.linter)) := by
  induction targets generalizing s with
  | nil => rfl
  | cons target rest ih => simp [lintFiles, lintFile_eq, ih]

/-- That no more workers are asked for than can be counted. -/
def Countable (jobs? : Option Nat) : Prop := ∀ jobs, jobs? = some jobs → jobs ≤ maxWorkers

lemma countable_none : Countable none := by rintro _ ⟨⟩

lemma execute_of_countable (h : Countable plan.jobs?) :
    plan.execute host env targets s =
      (.ok (plan.lintFiles host env targets s).1, (plan.lintFiles host env targets s).2) := by
  have hnone : plan.jobs?.filter (maxWorkers < ·) = none := by
    rw [Option.filter_eq_none_iff]
    exact fun jobs hjobs => by simpa using h jobs hjobs
  simp [execute, hnone]

lemma eq_of_execute_eq_ok {files : List FileReport}
    (h : (plan.execute host env targets s).1 = .ok files) :
    files = (plan.lintFiles host env targets s).1 := by
  unfold execute at h
  split at h
  · cases h
  · exact (Except.ok.inj h).symm

lemma execute_of_lt {jobs : Nat} (h : plan.jobs? = some jobs) (hlt : maxWorkers < jobs) :
    plan.execute host env targets s = (.error ⟨jobs⟩, s) := by
  simp [execute, h, Option.filter, hlt]

end LintChain.Plan

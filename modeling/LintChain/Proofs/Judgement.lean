import LintChain.Proofs.Classification
import LintChain.Proofs.Trail

/-!
One invocation, from the look at the file before it to the look after it. What became of the file
counts more than what became of the process, and only a process that came to an end by itself is
judged by its exit code.
-/

namespace LintChain

variable {σ : Type}

/-- No timeout runs out but the one that was set. -/
lemma Host.timeout?_of_perform {host : Host σ} {command : Command} {state : σ} {program : Path}
    {span : Duration} (h : (host.perform command state).1 = .error (.timedOut program span)) :
    command.timeout? = some span := by
  unfold Host.perform at h
  cases htimeout : command.timeout? with
  | none =>
    rw [htimeout] at h
    rcases hrun : host.run command state with ⟨_ | _, _⟩ <;> simp [hrun, Except.mapError] at h
  | some after =>
    rw [htimeout] at h
    rcases hrun : host.runWithin after command state with ⟨_ | _ | _, _⟩ <;> simp [hrun] at h
    rw [h.2]

namespace Spec

variable {spec : Spec} {code? : Option Int} {changed : Bool}

lemma classify_ne_timedOut (span : Duration) :
    spec.classify code? changed ≠ .toolError (.timedOut span) := by
  rcases classify_cases spec code? changed with h | h | h | ⟨code, h⟩ | ⟨code, h⟩ | h <;> simp [h]

/-- A code that passes is 0, or tells of a change that there was. -/
lemma passes_of_classify_eq_pass (h : spec.classify code? changed = .pass) :
    code? = some 0 ∨
      ∃ code, code? = some code ∧ code ∈ spec.exitCodes.changes ∧ changed = true := by
  obtain ⟨hreads, -⟩ := (classify_eq_iff_of_not_toolError rfl).mp h
  obtain ⟨code, rfl, rfl | ⟨hchange, -, hchanged⟩⟩ := ExitCodes.reads_pass_iff.mp hreads
  · exact .inl rfl
  · exact .inr ⟨code, rfl, hchange, hchanged⟩

end Spec

namespace Plan

/-- What an invocation on a file that could be read before it comes to, by the end of its process
and the look at the file after it. -/
structure Judged (timeout? : Option Duration) (linter : Linter) (absolute : Path)
    (before : Snapshot) (ended : Except CommandError Output) (after : Except SystemError Snapshot)
    (result : ToolResult) : Prop where
  linter_eq : result.linter = linter
  /-- The file has another digest than before, or cannot be read any more. -/
  changed_iff : result.changed = true ↔ after ≠ .ok before
  status_of_unreadable {reason : SystemError} (hafter : after = .error reason) :
    result.status = .toolError (.fileUnavailable (Snapshot.failure absolute reason))
  status_of_finished {output : Output} {snapshot : Snapshot} (hended : ended = .ok output)
    (hafter : after = .ok snapshot) :
    result.status = linter.spec.classify output.code? result.changed
  status_of_timedOut {program : Path} {span : Duration} {snapshot : Snapshot}
    (hended : ended = .error (.timedOut program span)) (hafter : after = .ok snapshot) :
    timeout? = some span ∧ result.status = .toolError (.timedOut span)
  status_of_notStarted {program : Path} {reason : SystemError} {snapshot : Snapshot}
    (hended : ended = .error (.notStarted program reason)) (hafter : after = .ok snapshot) :
    result.status = .toolError (.processFailed (CommandError.notStarted program reason).message)
  status_of_notAwaited {program : Path} {reason : SystemError} {snapshot : Snapshot}
    (hended : ended = .error (.notAwaited program reason)) (hafter : after = .ok snapshot) :
    result.status = .toolError (.processFailed (CommandError.notAwaited program reason).message)
  seen_of_finished {output : Output} (hended : ended = .ok output) :
    result.exitCode = output.code? ∧ result.stdout = output.stdout ∧ result.stderr = output.stderr
  seen_of_unfinished {e : CommandError} (hended : ended = .error e) :
    result.exitCode = none ∧ result.stdout = "" ∧ result.stderr = ""

variable {timeout? : Option Duration} {linter : Linter} {absolute : Path} {before : Snapshot}
  {ended : Except CommandError Output} {after : Except SystemError Snapshot} {result : ToolResult}

lemma judge_of_readable (snapshot : Snapshot) :
    (judge linter absolute before ended (.ok snapshot)).status = statusOfResult linter.spec
      (judge linter absolute before ended (.ok snapshot)).changed ended := by
  cases ended <;> rfl

lemma judged_judge (htimeout : ∀ program span, ended = .error (.timedOut program span) →
      timeout? = some span) :
    Judged timeout? linter absolute before ended after
      (judge linter absolute before ended after) where
  linter_eq := linter_judge linter absolute before ended after
  changed_iff := by
    cases after with
    | error reason => simp [(changed_judge_of_error linter absolute before ended reason).1]
    | ok snapshot => simp [changed_judge_of_ok]
  status_of_unreadable := by
    rintro reason rfl
    exact (changed_judge_of_error linter absolute before ended reason).2
  status_of_finished := by
    rintro output snapshot rfl rfl
    exact judge_of_readable snapshot
  status_of_timedOut := by
    rintro program span snapshot rfl rfl
    exact ⟨htimeout program span rfl, judge_of_readable snapshot⟩
  status_of_notStarted := by
    rintro program reason snapshot rfl rfl
    exact judge_of_readable snapshot
  status_of_notAwaited := by
    rintro program reason snapshot rfl rfl
    exact judge_of_readable snapshot
  seen_of_finished := by
    rintro output rfl
    exact ⟨rfl, rfl, rfl⟩
  seen_of_unfinished := by
    rintro e rfl
    exact ⟨rfl, rfl, rfl⟩

namespace Judged

variable (h : Judged timeout? linter absolute before ended after result)

include h

/-- The four ways to a status. -/
lemma status_cases :
    (∃ reason, after = .error reason ∧
      result.status = .toolError (.fileUnavailable (Snapshot.failure absolute reason))) ∨
    (∃ snapshot, after = .ok snapshot ∧
      ((∃ output, ended = .ok output ∧
          result.status = linter.spec.classify output.code? result.changed) ∨
        (∃ span, timeout? = some span ∧ result.status = .toolError (.timedOut span)) ∨
        ∃ message, result.status = .toolError (.processFailed message))) := by
  cases after with
  | error reason => exact .inl ⟨reason, rfl, h.status_of_unreadable rfl⟩
  | ok snapshot =>
    refine .inr ⟨snapshot, rfl, ?_⟩
    rcases ended with (⟨program, reason⟩ | ⟨program, reason⟩ | ⟨program, span⟩) | output
    · exact .inr (.inr ⟨_, h.status_of_notStarted rfl rfl⟩)
    · exact .inr (.inr ⟨_, h.status_of_notAwaited rfl rfl⟩)
    · exact .inr (.inl ⟨span, h.status_of_timedOut rfl rfl⟩)
    · exact .inl ⟨output, rfl, h.status_of_finished rfl rfl⟩

lemma timeout?_of_timedOut {span : Duration}
    (hstatus : result.status = .toolError (.timedOut span)) : timeout? = some span := by
  rcases h.status_cases with ⟨reason, -, hunavailable⟩ |
    ⟨snapshot, -, ⟨output, -, hclassify⟩ | ⟨span', htimeout, htimedOut⟩ | ⟨message, hfailed⟩⟩
  · simp [hunavailable] at hstatus
  · exact absurd (hclassify.symm.trans hstatus) (Spec.classify_ne_timedOut span)
  · obtain rfl : span' = span := by simpa [htimedOut] using hstatus
    exact htimeout
  · simp [hfailed] at hstatus

/-- A pass takes a file that is still there, and a process that ended well or with a change. -/
lemma of_pass (hstatus : result.status = .pass) : (∃ snapshot, after = .ok snapshot) ∧
    ∃ output, ended = .ok output ∧ (output.code? = some 0 ∨
      ∃ code, output.code? = some code ∧ code ∈ linter.spec.exitCodes.changes ∧
        result.changed = true) := by
  rcases h.status_cases with ⟨reason, -, hunavailable⟩ |
    ⟨snapshot, hafter, ⟨output, hended, hclassify⟩ | ⟨span, -, htimedOut⟩ | ⟨message, hfailed⟩⟩
  · simp [hunavailable] at hstatus
  · exact ⟨⟨snapshot, hafter⟩, output, hended,
      Spec.passes_of_classify_eq_pass (hclassify.symm.trans hstatus)⟩
  · simp [htimedOut] at hstatus
  · simp [hfailed] at hstatus

end Judged

/-- **One invocation, end to end.** Where the file cannot be read before it, nothing is started, and
the result says so without a code, output or change. Otherwise one process is started, with the
catalog's arguments, the user's options and the file, and the result is judged by its end and by the
look at the file after it. A timeout is reported only if it is the one that is set, and a pass only
if the file could be read before and after and the process ended with code 0, or with a code that
tells of a change that there was. -/
theorem invocation_judged (host : Host σ) (env : Environment) (plan : Plan)
    (planned : PlannedLinter) (target : Target) (s : Session σ) :
    let linter := planned.linter.linter
    let command := plan.toolCommand env planned target
    let before := Snapshot.take host s.machine target.absolute
    let ended := (host.perform command s.machine).1
    let machine := (host.perform command s.machine).2
    let after := Snapshot.take host machine target.absolute
    let result := (plan.invoke host env planned target s).1
    let last := (plan.invoke host env planned target s).2
    (command.program = planned.program ∧ command.cwd = plan.cwd ∧
      command.args = linter.spec.args ++ planned.linter.options ++ [target.path.text] ∧
      command.timeout? = plan.timeout?) ∧
    (∀ reason, before = .error reason → last = s ∧
      result = ⟨linter, "", "", none,
        .toolError (.fileUnavailable (Snapshot.failure target.absolute reason)), false⟩) ∧
    (∀ snapshot, before = .ok snapshot →
      last.started = s.started ++ [command] ∧ last.machine = machine ∧
      Judged plan.timeout? linter target.absolute snapshot ended after result) ∧
    (∀ span, result.status = .toolError (.timedOut span) → plan.timeout? = some span) ∧
    (result.status = .pass → (∃ snapshot, before = .ok snapshot) ∧
      (∃ snapshot, after = .ok snapshot) ∧
      ∃ output, ended = .ok output ∧ (output.code? = some 0 ∨
        ∃ code, output.code? = some code ∧ code ∈ linter.spec.exitCodes.changes ∧
          result.changed = true)) := by
  intro linter command before ended machine after result last
  have htimeout : ∀ program span, ended = .error (.timedOut program span) →
      plan.timeout? = some span := fun _ _ => Host.timeout?_of_perform
  refine ⟨⟨rfl, rfl, rfl, rfl⟩, ?_⟩
  cases hread : host.read s.machine target.absolute with
  | error reason =>
    have hbefore : before = .error reason := by simp [before, Snapshot.take, hread, Except.map]
    have hinvoke : (result, last) = (.fileUnavailable linter _, s) := invoke_of_unreadable hread
    obtain ⟨hresult, hlast⟩ := Prod.mk.inj hinvoke
    rw [hbefore, hresult]
    refine ⟨?_, by simp, by simp [ToolResult.fileUnavailable], by simp [ToolResult.fileUnavailable]⟩
    rintro _ ⟨⟩
    exact ⟨hlast, rfl⟩
  | ok bytes =>
    have hbefore : before = .ok (Sha256.digest bytes) := by
      simp [before, Snapshot.take, hread, Except.map]
    have hinvoke : (result, last) = _ := invoke_of_readable hread
    simp only [Session.run_eq_await] at hinvoke
    obtain ⟨hresult, hlast⟩ := Prod.mk.inj hinvoke
    have hjudged : Judged plan.timeout? linter target.absolute (Sha256.digest bytes) ended after
        result := hresult ▸ judged_judge htimeout
    rw [hbefore]
    refine ⟨by simp, ?_, fun span => hjudged.timeout?_of_timedOut,
      fun hpass => ⟨⟨_, rfl⟩, hjudged.of_pass hpass⟩⟩
    rintro _ ⟨⟩
    exact ⟨by simp [hlast, command], by simp [hlast, machine, command], hjudged⟩

/-- A fixer that is killed after it has removed its file. -/
example (absolute : Path) (before : Snapshot) (span : Duration) :
    judge .black absolute before (.error (.timedOut ⟨"/bin/black"⟩ span)) (.error .notFound) =
      ⟨.black, "", "", none,
        .toolError (.fileUnavailable (Snapshot.failure absolute .notFound)), true⟩ := rfl

end Plan

end LintChain

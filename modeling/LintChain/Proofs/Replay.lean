import LintChain.Proofs.Course
import LintChain.Proofs.Roster

/-!
The run that does everything one after the other is one of the courses: the probes in the order of
the linters, and the files in their own order.
-/

namespace LintChain.Course

variable {σ ω α β : Type} (m : Setting σ ω) (inv : Invocation) (cores : Nat)

/-- Some course leads from one phase to another. -/
def Leads (phase : Phase) (p : Progress σ ω) (phase' : Phase) (p' : Progress σ ω) : Prop :=
  ∃ acts, Moves m inv cores phase p acts phase' p'

/-- Where a stage leaves a course: in the next phase with its result, or where its error leads. -/
def resume (next : α → Phase) : Except LintError α → Phase
  | .ok a => next a
  | .error e => failed e

/-- From `phase` a course goes along with a stage. -/
def Follows (x : Stage σ ω α) (phase : Phase) (next : α → Phase) : Prop :=
  ∀ p, Leads m inv cores phase p (resume next (x p).1) (x p).2

variable {m inv cores}

section Leads

variable {phase phase' phase'' : Phase} {p p' p'' : Progress σ ω} {act? : Option Act}

lemma Leads.refl : Leads m inv cores phase p phase p := ⟨[], .refl⟩

lemma Leads.tail (h : Leads m inv cores phase p phase' p')
    (hmove : Move m inv cores phase' p' act? phase'' p'') :
    Leads m inv cores phase p phase'' p'' := by
  obtain ⟨acts, hmoves⟩ := h
  exact ⟨_, hmoves.tail hmove⟩

lemma Leads.single (hmove : Move m inv cores phase p act? phase' p') :
    Leads m inv cores phase p phase' p' := Leads.refl.tail hmove

lemma Leads.trans (h : Leads m inv cores phase p phase' p')
    (h' : Leads m inv cores phase' p' phase'' p'') : Leads m inv cores phase p phase'' p'' := by
  obtain ⟨acts, hmoves⟩ := h'
  induction hmoves with
  | refl => exact h
  | tail _ hmove ih => exact ih.tail hmove

end Leads

/-! ### Writing -/

section Stages

variable {x : Stage σ ω α} {f : α → Stage σ ω β} {phase : Phase} {next : α → Phase}
  {next' : β → Phase}

lemma Follows.pure (a : α) (next : α → Phase) :
    Follows m inv cores (Pure.pure a) (next a) next := fun _ => .refl

lemma Follows.bind (hx : Follows m inv cores x phase next)
    (hf : ∀ a, Follows m inv cores (f a) (next a) next') :
    Follows m inv cores (x >>= f) phase next' := by
  intro p
  have hfirst := hx p
  rcases hresult : x p with ⟨e | a, q⟩
  · rw [Stage.bind_of_error hresult]
    rwa [hresult] at hfirst
  · rw [Stage.bind_of_ok hresult]
    rw [hresult] at hfirst
    exact hfirst.trans (hf a q)

lemma follows_writeLines {part : Part} (hpart : part ≠ .closing) (lines : List Line)
    (next : Phase) :
    Follows m inv cores (m.writeLines lines) (.writing part lines next) fun _ => next := by
  intro p
  rw [Setting.writeLines_apply]
  rcases hwrite : m.writer.writeLines lines p.out with ⟨e | _, out⟩
  · have hmove : Move m inv cores (.writing part lines next) p _ (refused part e) _ :=
      .refuse hwrite
    cases part with
    | closing => exact absurd rfl hpart
    | _ => exact .single hmove
  · exact .single (.write hwrite)

lemma follows_writeIf {part : Part} (hpart : part ≠ .closing) (wanted : Bool) (lines : List Line)
    (next : Phase) :
    Follows m inv cores (m.writeIf wanted lines) (writingIf wanted part lines next)
      fun _ => next := by
  cases wanted with
  | false => exact .pure () fun _ => next
  | true => exact follows_writeLines hpart lines next

lemma follows_flush (run : RunReport) :
    Follows m inv cores m.flush (.flushing run) fun _ => .ended (.ok run.exitCode) := by
  intro p
  rw [Setting.flush_apply]
  rcases hflush : m.writer.flush p.out with ⟨e | _, out⟩
  · exact .single (.refuseFlush hflush)
  · exact .single (.flush hflush)

lemma follows_writeResults (run : RunReport) :
    Follows m inv cores (m.writeResults run)
      (.writing .results (Report.runLines run) (.flushing run))
      fun run => .ended (.ok run.exitCode) :=
  .bind (follows_writeLines (by simp) _ _) fun _ => .bind (follows_flush run) fun _ =>
    .pure run fun run => .ended (.ok run.exitCode)

end Stages

/-! ### Probes one after the other -/

section Probes

variable {config : Config} {targets : List Target} {before after : List ProbeTask}
  {linter : ResolvedLinter} {program : Path}

lemma probeUntil_of_last {host : Host σ} {command : Command} {policy : RetryPolicy} {left : Nat}
    {attempt : UInt32} {s : Session σ}
    (h : (Probe.ofResult (host.perform command s.machine).1).fault? = none ∨ left = 0) :
    Bootstrap.probeUntil host command policy left attempt s =
      (.ofResult (host.perform command s.machine).1, attempt,
        ((s.record (.started command)).await host command).2) := by
  cases left with
  | zero => simp [Bootstrap.probeUntil, Session.run_eq_await]
  | succ left =>
    have hnone := h.resolve_right (Nat.succ_ne_zero left)
    simp [Bootstrap.probeUntil, Session.run_eq_await, hnone]

lemma probeUntil_of_fault {host : Host σ} {command : Command} {policy : RetryPolicy} {left : Nat}
    {attempt : UInt32} {s : Session σ} {fault : Fault}
    (h : (Probe.ofResult (host.perform command s.machine).1).fault? = some fault) :
    Bootstrap.probeUntil host command policy (left + 1) attempt s =
      Bootstrap.probeUntil host command policy left (attempt + 1)
        (((s.record (.started command)).await host command).2.pause host
          (policy.delay attempt)) := by
  simp [Bootstrap.probeUntil, Session.run_eq_await, h]

/-- The probes of a program that has been found. -/
lemma probeLinter_of_some {host : Host σ} {env : Environment} {settings : ProbeSettings}
    {s : Session σ}
    (h : Executable.find? host s.machine env settings.searchPath? settings.cwd linter.executable =
      some program) :
    Bootstrap.probeLinter host env settings linter s =
      let ended := Bootstrap.probeUntil host (probeCommand env settings linter program)
        settings.retry (Bootstrap.retries settings linter.spec) 0
        (s.warn (env.toolVariables linter.linter).2)
      (probeResult linter program ended.2.1 ended.1,
        ended.2.2.warn (Bootstrap.judge linter.spec program ended.1 ended.2.1).2) := by
  simp only [Bootstrap.probeLinter, h]
  rfl

lemma leads_probeUntil (left : Nat) (attempt : UInt32) (p : Progress σ ω) :
    let command := probeCommand m.env (Setting.probeSettings inv config) linter program
    let last := Bootstrap.probeUntil m.host command config.retry left attempt p.session
    Leads m inv cores
      (.probing config targets (before ++ .ready linter program left attempt :: after)) p
      (.probing config targets
        (before ++ .done (probeResult linter program last.2.1 last.1) :: after))
      { p with
        session := last.2.2.warn (Bootstrap.judge linter.spec program last.1 last.2.1).2 } := by
  intro command
  have hlaunch (left : Nat) (attempt : UInt32) (p : Progress σ ω) : Leads m inv cores
      (.probing config targets (before ++ .ready linter program left attempt :: after)) p
      (.probing config targets (before ++ .running linter program left attempt :: after))
      { p with session := p.session.record (.started command) } := .single (.probe .launch)
  induction left generalizing attempt p with
  | zero =>
    rw [probeUntil_of_last (.inr rfl)]
    exact (hlaunch 0 attempt p).tail (.probe (.settle (.inr rfl)))
  | succ left ih =>
    cases hfault : (probeShown m.host m.env (Setting.probeSettings inv config) linter program
        p.session.machine).fault? with
    | none =>
      rw [probeUntil_of_last (.inl hfault)]
      exact (hlaunch (left + 1) attempt p).tail (.probe (.settle (.inl hfault)))
    | some fault =>
      rw [probeUntil_of_fault hfault]
      exact ((hlaunch (left + 1) attempt p).tail (.probe (.retry hfault))).trans (ih _ _)

lemma leads_probeLinter (p : Progress σ ω) :
    let probed := Bootstrap.probeLinter m.host m.env (Setting.probeSettings inv config) linter
      p.session
    Leads m inv cores (.probing config targets (before ++ .waiting linter :: after)) p
      (.probing config targets (before ++ .done probed.1 :: after))
      { p with session := probed.2 } := by
  intro probed
  cases hfind : Executable.find? m.host p.session.machine m.env
      (Setting.probeSettings inv config).searchPath? (Setting.probeSettings inv config).cwd
      linter.executable with
  | none =>
    have hmissing : probed = (⟨linter.linter, .missing, "", ""⟩, p.session) := by
      simp only [probed, Bootstrap.probeLinter, hfind]
    rw [hmissing]
    exact .single (.probe (.missing hfind))
  | some program =>
    simp only [probed, Bootstrap.probeLinter, hfind]
    exact (Leads.single (.probe (.found hfind))).trans (leads_probeUntil _ _ _)

lemma leads_probeAll (done : List Probed) (linters : List ResolvedLinter) (p : Progress σ ω) :
    let probed := Bootstrap.probeAll m.host m.env (Setting.probeSettings inv config) linters
      p.session
    Leads m inv cores (.probing config targets (done.map .done ++ linters.map .waiting)) p
      (.probing config targets ((done ++ probed.1).map .done))
      { p with session := probed.2 } := by
  induction linters generalizing done p with
  | nil => simpa [Bootstrap.probeAll] using .refl
  | cons linter rest ih =>
    let first := Bootstrap.probeLinter m.host m.env (Setting.probeSettings inv config) linter
      p.session
    have hfirst : Leads m inv cores
        (.probing config targets (done.map .done ++ .waiting linter :: rest.map .waiting)) p
        (.probing config targets (done.map .done ++ .done first.1 :: rest.map .waiting))
        { p with session := first.2 } := leads_probeLinter p
    have hrest := ih (done ++ [first.1]) { p with session := first.2 }
    simp only [List.map_append, List.map_cons, List.map_nil, List.append_assoc,
      List.singleton_append] at hrest
    simpa [Bootstrap.probeAll] using hfirst.trans hrest

end Probes

/-! ### The run -/

section Run

variable {config : Config} {targets : List Target} {report : BootstrapReport}

lemma follows_bootstrap (config : Config) (targets : List Target) :
    Follows m inv cores (m.bootstrap inv config)
      (.probing config targets (config.enabledLinters.map .waiting))
      fun report => writingIf inv.bootstrap .verdict [.ofText Report.bootstrapSucceeded]
        (listing config targets report) := by
  intro p
  have hprobes : Leads m inv cores
      (.probing config targets (config.enabledLinters.map .waiting)) p
      (assessed inv config targets (m.probed inv config p.session).1)
      { p with session := (m.probed inv config p.session).2 } :=
    (leads_probeAll [] config.enabledLinters p).tail .assess
  rw [Setting.bootstrap_apply]
  unfold assessed at hprobes
  split at hprobes
  next hsuccess =>
    rw [if_pos hsuccess]
    exact hprobes
  next hfailure =>
    rw [if_neg hfailure]
    exact hprobes

lemma leads_work {scene scene' : Workers.Scene σ}
    (hsteps : Workers.Steps m.host m.env (Setting.plan inv config report) (config.jobs?.getD cores)
      scene scene')
    (hsound : Workers.Sound (Setting.plan inv config report) (config.jobs?.getD cores) targets
      scene.1) (out : ω) :
    Leads m inv cores (.linting config targets report scene.1) ⟨scene.2, out⟩
      (.linting config targets report scene'.1) ⟨scene'.2, out⟩ := by
  induction hsteps with
  | refl => exact .refl
  | tail hsteps hstep ih =>
    obtain ⟨command?, hstarted, -⟩ := hstep.started (Workers.Steps.sound hsteps hsound)
    exact ih.tail (.work hstep hstarted)

lemma follows_lintTargets (hpermits : 0 < config.jobs?.getD cores) :
    Follows m inv cores (m.lintTargets inv config report targets) (.engaging config targets report)
      fun files =>
        .writing .results (Report.runLines ⟨report, files⟩) (.flushing ⟨report, files⟩) := by
  intro p
  by_cases hjobs : Plan.Countable config.jobs?
  · have hexecute : (Setting.plan inv config report).execute m.host m.env targets
        (Setting.engaged inv config report p.session) = _ := Plan.execute_of_countable hjobs
    rw [Setting.lintTargets_of_execute hexecute]
    obtain ⟨pool, hsteps, hfull, hreports⟩ : ∃ pool, Workers.Steps m.host m.env
        (Setting.plan inv config report) (config.jobs?.getD cores)
        (.start (Setting.plan inv config report) targets,
          Setting.engaged inv config report p.session) (pool, _) ∧ _ :=
      Workers.exists_steps_lintFiles hpermits targets _
    have hwork := leads_work hsteps (.start _ _ targets) p.out
    rw [← hreports]
    exact ((Leads.single (.engage hjobs)).trans hwork).tail (.gather hfull)
  · obtain ⟨jobs, hsome, hlt⟩ : ∃ jobs, config.jobs? = some jobs ∧ Plan.maxWorkers < jobs := by
      simpa [Plan.Countable] using hjobs
    have hexecute : (Setting.plan inv config report).execute m.host m.env targets
        (Setting.engaged inv config report p.session) = _ := Plan.execute_of_lt hsome hlt
    rw [Setting.lintTargets_of_execute hexecute]
    exact .single (.overload hsome hlt)

lemma follows_lintListed (hpermits : 0 < config.jobs?.getD cores) :
    Follows m inv cores (m.lintListed inv config targets report) (listing config targets report)
      fun run => .ended (.ok run.exitCode) := by
  refine .bind (follows_writeLines (by simp) _ _) fun _ => ?_
  cases targets with
  | nil => exact .pure (RunReport.mk report []) fun run => .ended (.ok run.exitCode)
  | cons target rest =>
    exact .bind (follows_lintTargets hpermits) fun files => follows_writeResults ⟨report, files⟩

lemma follows_lintDiscovered (hpermits : 0 < config.jobs?.getD cores) :
    Follows m inv cores (m.lintDiscovered inv config targets)
      (writingIf inv.bootstrap .progress
        (Report.progressLines (config.enabledLinters.map (·.linter)))
        (.probing config targets (config.enabledLinters.map .waiting)))
      fun run => .ended (.ok run.exitCode) := by
  rw [Setting.lintDiscovered_eq]
  exact .bind (follows_writeIf (by simp) _ _ _) fun _ => .bind (follows_bootstrap config targets)
    fun report => .bind (follows_writeIf (by simp) _ _ _) fun _ => follows_lintListed hpermits

lemma follows_idle (config : Config) :
    Follows m inv cores (do m.writeTargets []; return RunReport.empty) (listing config [] .empty)
      fun run => .ended (.ok run.exitCode) :=
  .bind (follows_writeLines (by simp) _ _) fun _ =>
    .pure RunReport.empty fun run => .ended (.ok run.exitCode)

/-- The last lines of a run without a report. -/
lemma leads_conclude (e : LintError) (p : Progress σ ω) :
    Leads m inv cores (failed e) p (.ended (m.conclude (.error e) p).1)
      (m.conclude (.error e) p).2 := by
  cases e with
  | workers e => exact .refl
  | _ =>
    simp only [Setting.conclude, Stage.bind_eq, Setting.writeLines_apply]
    rcases hwrite : m.writer.writeLines (Setting.closingLines _) p.out with ⟨e | _, out⟩
    · exact .single (.refuse hwrite)
    · exact .single (.write hwrite)

/-- **Everything one after the other** is one of the courses: it ends as the run does. -/
theorem leads_run (hjobs : inv.jobs? ≠ some 0) (hcores : 0 < cores) (p : Progress σ ω) :
    Leads m inv cores (start m inv p).1 (start m inv p).2 (.ended (m.run inv p).1)
      (m.run inv p).2 := by
  have hlint : Leads m inv cores (start m inv p).1 (start m inv p).2
      (resume (fun run => .ended (.ok run.exitCode)) (m.lint inv p).1) (m.lint inv p).2 := by
    unfold start
    cases hconfig : m.configured inv p.session.machine with
    | error e =>
      rw [Setting.lint_of_error hconfig]
      exact .refl
    | ok config =>
      rw [Setting.lint_of_ok hconfig]
      dsimp only
      unfold opening
      split
      next hidle =>
        obtain ⟨hnone, -⟩ := Bool.and_eq_true_iff.mp hidle
        rw [List.isEmpty_iff.mp hnone]
        exact follows_idle config _
      next hbusy => exact follows_lintDiscovered (Setting.workers_pos hconfig hjobs hcores) _
  rw [Setting.run_apply]
  refine hlint.trans ?_
  rcases m.lint inv p with ⟨e | run, q⟩
  · exact leads_conclude e q
  · exact .refl

end Run

end LintChain.Course

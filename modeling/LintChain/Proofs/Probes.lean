import LintChain.Proofs.Gating

/-!
The probes of the enabled linters, side by side. In whatever order they go on they come to an end,
and then there is one result for each linter, in canonical order.
-/

namespace LintChain

/-- One result for each enabled linter, in canonical order. -/
structure BootstrapReport.IsComplete (report : BootstrapReport) (config : Config) : Prop where
  linters_eq : report.results.map (·.linter) = config.enabledLinters.map (·.linter)
  ordered : (report.results.map (·.linter)).Pairwise fun a b => a.position < b.position

variable {config : Config}

lemma BootstrapReport.IsComplete.of_linters_eq {results : List Probed}
    (hlinters : config.linters.map (·.linter) = Linter.all)
    (h : results.map (·.linter) = config.enabledLinters.map (·.linter)) :
    (BootstrapReport.mk results).IsComplete config :=
  ⟨h, h ▸ Config.pairwise_enabledLinters hlinters⟩

namespace Course

variable {σ : Type} (host : Host σ) (env : Environment) (settings : ProbeSettings)

/-- One step of the probes of one of several linters. -/
inductive ProbesStep : List ProbeTask × Session σ → List ProbeTask × Session σ → Prop
  | mk {before after : List ProbeTask} {task task' : ProbeTask} {s s' : Session σ}
      {act? : Option Act} (hstep : ProbeStep host env settings task s act? task' s') :
      ProbesStep (before ++ task :: after, s) (before ++ task' :: after, s')

/-- Any number of steps. -/
abbrev ProbesSteps : List ProbeTask × Session σ → List ProbeTask × Session σ → Prop :=
  Relation.ReflTransGen (ProbesStep host env settings)

/-- A bound on the steps that the probes of a linter have yet to take. -/
def ProbeTask.rank : ProbeTask → Nat
  | waiting linter => 2 * Bootstrap.retries settings linter.spec + 3
  | ready _ _ left _ => 2 * left + 2
  | running _ _ left _ => 2 * left + 1
  | done _ => 0

/-- A bound on the steps of all probes. -/
def probesRank : List ProbeTask → Nat
  | [] => 0
  | task :: rest => task.rank settings + probesRank rest

variable {host env settings} {task task' : ProbeTask} {s s' : Session σ} {act? : Option Act}
  {scene scene' : List ProbeTask × Session σ}

/-! ### Steps -/

lemma ProbeStep.rank_lt (hstep : ProbeStep host env settings task s act? task' s') :
    task'.rank settings < task.rank settings := by
  cases hstep <;> simp only [ProbeTask.rank] <;> omega

/-- Every step uses up one of the steps that remain, so that no order goes on for ever. -/
lemma ProbesStep.rank_lt (hstep : ProbesStep host env settings scene scene') :
    probesRank settings scene'.1 < probesRank settings scene.1 := by
  obtain @⟨before, after, task, task', s, s', act?, hstep⟩ := hstep
  have hrank := hstep.rank_lt
  induction before with
  | nil => exact Nat.add_lt_add_right hrank _
  | cons first before ih => exact Nat.add_lt_add_left ih _

lemma ProbesStep.names_eq (hstep : ProbesStep host env settings scene scene') :
    scene'.1.map ProbeTask.name = scene.1.map ProbeTask.name := by
  obtain ⟨hstep⟩ := hstep
  simp [hstep.name_eq]

lemma ProbesSteps.names_eq (hsteps : ProbesSteps host env settings scene scene') :
    scene'.1.map ProbeTask.name = scene.1.map ProbeTask.name := by
  induction hsteps with
  | refl => rfl
  | tail _ hstep ih => rw [hstep.names_eq, ih]

/-- Probes that have not come to an end go on. -/
lemma ProbeTask.exists_step {linter : ResolvedLinter} (h : task.linter? = some linter)
    (s : Session σ) : ∃ act? task' s', ProbeStep host env settings task s act? task' s' := by
  cases task with
  | waiting linter =>
    cases hfind : Executable.find? host s.machine env settings.searchPath? settings.cwd
      linter.executable with
    | none => exact ⟨_, _, _, .missing hfind⟩
    | some program => exact ⟨_, _, _, .found hfind⟩
  | ready => exact ⟨_, _, _, .launch⟩
  | running linter program left attempt =>
    cases hfault : (probeShown host env settings linter program s.machine).fault? with
    | none => exact ⟨_, _, _, .settle (.inl hfault)⟩
    | some fault =>
      cases left with
      | zero => exact ⟨_, _, _, .settle (.inr rfl)⟩
      | succ left => exact ⟨_, _, _, .retry hfault⟩
  | done => cases h

/-! ### The end -/

/-- All probes have come to an end, or some can go on. -/
lemma exists_results_or_step (scene : List ProbeTask × Session σ) :
    (∃ results : List Probed, scene.1 = results.map .done) ∨
      ∃ next, ProbesStep host env settings scene next := by
  obtain ⟨tasks, s⟩ := scene
  by_cases h : ∃ task ∈ tasks, task.linter?.isSome
  · obtain ⟨task, htask, hlinter⟩ := h
    obtain ⟨linter, hlinter⟩ := Option.isSome_iff_exists.mp hlinter
    obtain ⟨before, after, rfl⟩ := List.append_of_mem htask
    obtain ⟨act?, task', s', hstep⟩ : ∃ act? task' s', ProbeStep host env settings task s act?
      task' s' := ProbeTask.exists_step hlinter s
    exact .inr ⟨_, .mk hstep⟩
  · refine .inl ?_
    induction tasks with
    | nil => exact ⟨[], rfl⟩
    | cons task tasks ih =>
      simp only [List.mem_cons, exists_eq_or_imp, not_or] at h
      obtain ⟨results, rfl⟩ := ih h.2
      cases task with
      | done result => exact ⟨result :: results, rfl⟩
      | _ => exact absurd rfl h.1

/-- Every order can be brought to an end. -/
lemma exists_probesSteps_done (scene : List ProbeTask × Session σ) :
    ∃ (results : List Probed) (s' : Session σ),
      ProbesSteps host env settings scene (results.map .done, s') := by
  induction hrank : probesRank settings scene.1 using Nat.strongRecOn generalizing scene with
  | ind n ih =>
    subst hrank
    obtain ⟨results, hresults⟩ | ⟨next, hstep⟩ :
      _ ∨ ∃ next, ProbesStep host env settings scene next := exists_results_or_step scene
    · exact ⟨results, scene.2, by rw [← hresults]⟩
    · obtain ⟨results, s', hsteps⟩ := ih _ hstep.rank_lt next rfl
      exact ⟨results, s', .head hstep hsteps⟩

variable (config host env settings) in
/-- From here on no order goes on for ever, none is stuck before all probes have come to an end, and
then there is one result for each enabled linter, in canonical order. -/
structure Concludes (scene : List ProbeTask × Session σ) : Prop where
  rank_lt : ∀ next, ProbesStep host env settings scene next →
    probesRank settings next.1 < probesRank settings scene.1
  done_or_step : (∃ results : List Probed, scene.1 = results.map .done) ∨
    ∃ next, ProbesStep host env settings scene next
  exists_done : ∃ (results : List Probed) (s' : Session σ),
    ProbesSteps host env settings scene (results.map .done, s')
  complete : ∀ results : List Probed, scene.1 = results.map .done →
    (BootstrapReport.mk results).IsComplete config

/-- **Every order of the probes** comes to one result for each enabled linter. -/
lemma concludes_of_probesSteps (hlinters : config.linters.map (·.linter) = Linter.all)
    (hsteps : ProbesSteps host env settings (config.enabledLinters.map .waiting, s) scene) :
    Concludes config host env settings scene := by
  refine ⟨fun _ => ProbesStep.rank_lt, exists_results_or_step scene, exists_probesSteps_done scene,
    fun results hdone => .of_linters_eq hlinters ?_⟩
  have hnames := hsteps.names_eq
  rw [hdone] at hnames
  simpa [Function.comp_def, ProbeTask.name] using hnames

end Course

end LintChain

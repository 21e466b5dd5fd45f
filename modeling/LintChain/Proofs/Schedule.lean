import LintChain.Proofs.Shelf
import LintChain.Proofs.Workers
import Mathlib.Data.List.Nodup

/-!
Schedules of the work on files. Where an invocation reads and writes only its own file, and no two
targets are the same file, the reports are those of linting the files one after the other, for
every number of workers and every order of the steps and of the joins.
-/

namespace LintChain

/-- The same work with another number of workers. -/
def Plan.withJobs (plan : Plan) (jobs? : Option Nat) : Plan := { plan with jobs? }

namespace Workers

variable {σ κ γ : Type} {host : Host σ} {env : Environment} {plan : Plan} {permits : Nat}
  {targets : List Target} {file : Target → κ} {view : σ → κ → γ}

lemma invokeAll_withJobs (jobs? : Option Nat) (target : Target) (xs : List PlannedLinter)
    (s : Session σ) : (plan.withJobs jobs?).invokeAll host env target xs s =
      plan.invokeAll host env target xs s := by
  induction xs generalizing s with
  | nil => rfl
  | cons x xs ih =>
    simp only [Plan.invokeAll, ih]
    rfl

lemma lintFiles_withJobs (jobs? : Option Nat) (s : Session σ) :
    (plan.withJobs jobs?).lintFiles host env targets s = plan.lintFiles host env targets s := by
  induction targets generalizing s with
  | nil => rfl
  | cons t ts ih =>
    simp only [Plan.lintFiles, Plan.lintFile_eq, invokeAll_withJobs, ih]
    rfl

/-! ### Every task for itself -/

/-- The results and the file of a task in the session `s` are those that running the same linters
in the session `s₀`, with no other task around, comes to. -/
def Solo (host : Host σ) (env : Environment) (plan : Plan) (file : Target → κ) (view : σ → κ → γ)
    (s₀ s : Session σ) (task : Task) : Prop :=
  ∃ ran, plan.lintersFor task.target = ran ++ task.left ∧
    task.results = (plan.invokeAll host env task.target ran s₀).1 ∧
    view s.machine (file task.target) =
      view (plan.invokeAll host env task.target ran s₀).2.machine (file task.target)

/-- All tasks are as if alone, and no other file has been touched. -/
structure Separate (host : Host σ) (env : Environment) (plan : Plan) (targets : List Target)
    (file : Target → κ) (view : σ → κ → γ) (s₀ : Session σ) (scene : Scene σ) : Prop where
  solo : ∀ task ∈ scene.1.tasks, Solo host env plan file view s₀ scene.2 task
  rest : ∀ k, k ∉ targets.map file → view scene.2.machine k = view s₀.machine k

lemma Separate.start (plan : Plan) (targets : List Target) (s₀ : Session σ) :
    Separate host env plan targets file view s₀ (Pool.start plan targets, s₀) where
  solo := by
    intro task htask
    obtain ⟨i, target, rfl⟩ := Pool.mem_start htask
    exact ⟨[], rfl, rfl, rfl⟩
  rest := fun _ _ => rfl

/-- Of the tasks, only one is about the file of a given one. -/
lemma Sound.file_ne {before after : List Task} {task : Task} {slots : List (Option FileReport)}
    (h : Sound plan permits targets ⟨before ++ task :: after, slots⟩)
    (hdistinct : (targets.map file).Nodup) :
    ∀ t ∈ before ++ after, file t.target ≠ file task.target := by
  rw [← h.targets_eq, List.map_map, List.map_append, List.map_cons, List.nodup_middle,
    List.nodup_cons, ← List.map_append] at hdistinct
  exact fun t ht heq => hdistinct.1 (List.mem_map.mpr ⟨t, ht, heq⟩)

lemma Separate.step (c : Confined host env plan targets file view)
    (hdistinct : (targets.map file).Nodup) {s₀ : Session σ} {scene scene' : Scene σ}
    (hstep : Step host env plan permits scene scene')
    (hsound : Sound plan permits targets scene.1)
    (h : Separate host env plan targets file view s₀ scene) :
    Separate host env plan targets file view s₀ scene' := by
  obtain ⟨hsolo, hrest⟩ := h
  cases hstep with
  | acquire => exact ⟨forall_replace hsolo (fun _ _ => id) id, hrest⟩
  | finish => exact ⟨forall_replace hsolo (fun _ _ => id) id, hrest⟩
  | join => exact ⟨forall_replace hsolo (fun _ _ => id) id, hrest⟩
  | @invoke before after task slots s planned left hphase hleft =>
    have htask : task.target ∈ targets := by
      rw [← hsound.targets_eq]
      exact List.mem_map_of_mem (by simp)
    obtain ⟨ran, hran, hresults, hview⟩ := hsolo task (by simp)
    have hplanned : planned ∈ plan.linters :=
      (Plan.mem_lintersFor.mp (by rw [hran, hleft]; simp)).1
    refine ⟨forall_replace hsolo (fun t ht => ?_) fun _ => ?_, fun k hk => ?_⟩
    · -- the other tasks are about other files
      rintro ⟨ran, hran, hresults, hview⟩
      exact ⟨ran, hran, hresults,
        (c.invoke_frame htask hplanned s (hsound.file_ne hdistinct t ht)).trans hview⟩
    · -- the moving task sees its file as it would alone
      obtain ⟨hresult, heffect⟩ := c.invoke_congr htask hplanned hview
      refine ⟨ran ++ [planned], by simp [hran, hleft], ?_, ?_⟩
      · simp [Plan.invokeAll_append, Plan.invokeAll, hresults, hresult]
      · simpa [Plan.invokeAll_append, Plan.invokeAll] using heffect
    · refine (c.invoke_frame htask hplanned s fun heq => hk ?_).trans (hrest k hk)
      exact heq ▸ List.mem_map_of_mem htask

lemma Separate.steps (c : Confined host env plan targets file view)
    (hdistinct : (targets.map file).Nodup) {s₀ : Session σ} {scene : Scene σ}
    (hsteps : Steps host env plan permits (Pool.start plan targets, s₀) scene) :
    Separate host env plan targets file view s₀ scene := by
  induction hsteps with
  | refl => exact .start plan targets s₀
  | tail hsteps hstep ih =>
    exact ih.step c hdistinct hstep (Steps.sound hsteps (.start plan permits targets))

/-- With full slots, every task has come to what linting its file alone comes to. -/
lemma Solo.of_left_eq_nil {s₀ s : Session σ} {task : Task}
    (h : Solo host env plan file view s₀ s task) (hleft : task.left = []) :
    task.report = (plan.lintFile host env task.target s₀).1 ∧
      view s.machine (file task.target) =
        view (plan.lintFile host env task.target s₀).2.machine (file task.target) := by
  obtain ⟨ran, hran, hresults, hview⟩ := h
  rw [hleft, List.append_nil] at hran
  rw [Plan.lintFile_eq, hran, ← hresults]
  exact ⟨rfl, hview⟩

/-- What full slots and the files amount to. -/
lemma Separate.full (c : Confined host env plan targets file view)
    (hdistinct : (targets.map file).Nodup) {s₀ : Session σ} {scene : Scene σ}
    (h : Separate host env plan targets file view s₀ scene)
    (hsound : Sound plan permits targets scene.1) (hfull : none ∉ scene.1.slots) :
    scene.1.reports = (plan.lintFiles host env targets s₀).1 ∧
      ∀ k, view scene.2.machine k = view (plan.lintFiles host env targets s₀).2.machine k := by
  obtain ⟨hreports, hfiles, hothers⟩ := c.lintFiles_eq (fun _ ht => ht) hdistinct s₀
  have halone : ∀ task ∈ scene.1.tasks,
      task.report = (plan.lintFile host env task.target s₀).1 ∧
        view scene.2.machine (file task.target) =
          view (plan.lintFile host env task.target s₀).2.machine (file task.target) :=
    fun task htask => (h.solo task htask).of_left_eq_nil
      (hsound.left_eq task htask (.inr (hsound.joined hfull task htask)))
  refine ⟨?_, fun k => ?_⟩
  · rw [hsound.reports_eq hfull, hreports, ← hsound.targets_eq, List.map_map]
    exact List.map_congr_left fun task htask => (halone task htask).1
  · by_cases hk : k ∈ targets.map file
    · obtain ⟨t, ht, rfl⟩ := List.mem_map.mp hk
      rw [hfiles t ht]
      rw [← hsound.targets_eq] at ht
      obtain ⟨task, htask, rfl⟩ := List.mem_map.mp ht
      exact (halone task htask).2
    · rw [h.rest k hk, hothers k hk]

/-- **No schedule shows in the result.** Where every invocation reads and writes only its own file
and no two targets are the same file, then with any number of workers that can be counted, and
after any steps in any order: no more files are in progress than there are workers; some step can be
taken as long as a slot is empty, and steps can be taken until none is; and once no slot is empty,
there is one report for each target, in the order of the targets, the reports and the files being
those of linting the targets one after the other. -/
theorem schedule_independent (c : Confined host env plan targets file view)
    (hdistinct : (targets.map file).Nodup) {jobs? : Option Nat} {cores : Nat}
    (hpos : 0 < jobs?.getD cores) (hmax : jobs?.getD cores ≤ Plan.maxWorkers) {s₀ : Session σ}
    {scene : Scene σ}
    (hsteps : Steps host env (plan.withJobs jobs?) (jobs?.getD cores)
      (Pool.start (plan.withJobs jobs?) targets, s₀) scene) :
    Pool.busy scene.1.tasks ≤ jobs?.getD cores ∧
      (none ∈ scene.1.slots →
        ∃ next, Step host env (plan.withJobs jobs?) (jobs?.getD cores) scene next) ∧
      (∃ last, Steps host env (plan.withJobs jobs?) (jobs?.getD cores) scene last ∧
        none ∉ last.1.slots) ∧
      (none ∉ scene.1.slots →
        scene.1.reports = (plan.lintFiles host env targets s₀).1 ∧
        ((plan.withJobs jobs?).execute host env targets s₀).1 = .ok scene.1.reports ∧
        scene.1.reports.map (·.path) = targets.map (·.path) ∧
        ∀ k, view scene.2.machine k =
          view (plan.lintFiles host env targets s₀).2.machine k) := by
  have hsound := Steps.sound hsteps (.start _ _ targets)
  have hconfined : Confined host env (plan.withJobs jobs?) targets file view :=
    ⟨c.read_eq, c.result_eq, c.effect_eq, c.frame⟩
  refine ⟨hsound.busy_le, fun hempty => hsound.exists_step hpos hempty _,
    hsound.exists_steps hpos _, fun hfull => ?_⟩
  obtain ⟨hreports, hview⟩ := (Separate.steps hconfined hdistinct hsteps).full hconfined
    hdistinct hsound hfull
  have hcountable : Plan.Countable (plan.withJobs jobs?).jobs? := by
    rintro jobs rfl
    exact hmax
  refine ⟨by rw [hreports, lintFiles_withJobs], ?_, ?_, by simpa [lintFiles_withJobs] using hview⟩
  · rw [Plan.execute_of_countable hcountable, hreports]
  · simpa [Function.comp_def] using congrArg (List.map Prod.fst) (hsound.map_reports hfull)

/-- Two workers on two files of a shelf: the first file is taken up while the second is in
progress, and all schedules from there on end with the reports in order. -/
theorem schedule_independent_shelf :
    let plan : Plan := ⟨Shelf.directory,
      [⟨.ofSpec Linter.isort.spec, ⟨"/bin/isort"⟩⟩, ⟨.ofSpec Linter.flake8.spec, ⟨"/bin/flake8"⟩⟩],
      some 2, none⟩
    let a : Target := ⟨⟨"a.py"⟩, ⟨"/shelf/a.py"⟩⟩
    let b : Target := ⟨⟨"b.py"⟩, ⟨"/shelf/b.py"⟩⟩
    let s₀ := Session.begin [("a.py", "x = 1"), ("b.py", "y = 2\n")]
    let env : Environment := ⟨Shelf.directory, [], none⟩
    ∃ middle last,
      Steps Shelf.host env plan 2 (Pool.start plan [a, b], s₀) middle ∧
      middle.1.tasks.map (·.phase) = [.active, .active] ∧
      Steps Shelf.host env plan 2 middle last ∧ none ∉ last.1.slots ∧
      last.1.reports = (plan.lintFiles Shelf.host env [a, b] s₀).1 := by
  intro plan a b s₀ env
  have hlaw {scene : Scene Shelf}
      (h : Steps Shelf.host env plan 2 (Pool.start plan [a, b], s₀) scene) :=
    schedule_independent (Shelf.confined env plan (by decide +kernel)) (by decide +kernel)
      (show 0 < (some 2).getD 1 by decide) (by decide) h
  have hb : Steps Shelf.host env plan 2 (Pool.start plan [a, b], s₀) _ := .single
    (@Step.acquire _ _ _ plan 2 [Task.start plan 0 a] [] (Task.start plan 1 b) [none, none] s₀
      rfl (by decide))
  have hab := hb.tail
    (@Step.acquire _ _ _ plan 2 [] [{ Task.start plan 1 b with phase := .active }]
      (Task.start plan 0 a) [none, none] s₀ rfl (by decide))
  obtain ⟨last, hsteps, hfull⟩ := (hlaw hab).2.2.1
  exact ⟨_, last, hab, rfl, hsteps, hfull, ((hlaw (hab.trans hsteps)).2.2.2 hfull).1⟩

end Workers

end LintChain

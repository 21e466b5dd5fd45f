import LintChain.Proofs.Invocation
import Mathlib.Data.List.Basic
import Mathlib.Data.List.ReduceOption
import Mathlib.Logic.Relation

/-!
The files of a run, linted side by side.

Every file is a task. A task waits for one of a number of permits, runs its linters one invocation
at a time, gives the permit back, and is joined: its report goes to the slot of its index. The
steps of the tasks interleave in any order, and finished tasks are joined in any order. What is
proved here holds on every machine.
-/

namespace LintChain.Workers

inductive Phase
  /-- For a permit. -/
  | waiting
  | active
  /-- The permit is given back. -/
  | finished
  | joined
  deriving DecidableEq

/-- The work on one file. -/
structure Task where
  index : Nat
  target : Target
  phase : Phase
  /-- The linters that are still to run. -/
  left : List PlannedLinter
  results : List ToolResult

namespace Task

def start (plan : Plan) (index : Nat) (target : Target) : Task :=
  ⟨index, target, .waiting, plan.lintersFor target, []⟩

def report (task : Task) : FileReport := ⟨task.target.path, task.results⟩

/-- How many steps a task has yet to take. -/
def remaining (task : Task) : Nat :=
  task.left.length + match task.phase with
    | .waiting => 3
    | .active => 2
    | .finished => 1
    | .joined => 0

/-- The linters of a file are those with a result, and after them those that are left. -/
def Chained (plan : Plan) (task : Task) : Prop :=
  ∃ ran, plan.lintersFor task.target = ran ++ task.left ∧
    task.results.map (·.linter) = ran.map (·.linter.linter)

/-- What belongs into the slot of a task. -/
def slot (task : Task) : Option FileReport :=
  if task.phase = .joined then some task.report else none

lemma slot_of_ne {task : Task} (h : task.phase ≠ .joined) : task.slot = none := if_neg h

end Task

structure Pool where
  tasks : List Task
  slots : List (Option FileReport)

namespace Pool

def start (plan : Plan) (targets : List Target) : Pool :=
  ⟨targets.mapIdx (Task.start plan), List.replicate targets.length none⟩

lemma mem_start {plan : Plan} {targets : List Target} {task : Task}
    (h : task ∈ (start plan targets).tasks) : ∃ i target, task = Task.start plan i target := by
  obtain ⟨i, hi, rfl⟩ := List.mem_mapIdx.mp h
  exact ⟨i, targets[i], rfl⟩

/-- How many permits are held. -/
def busy (tasks : List Task) : Nat := tasks.countP (·.phase = .active)

/-- The reports in the order of the slots. -/
def reports (pool : Pool) : List FileReport := pool.slots.reduceOption

/-- How many steps tasks have yet to take. -/
def stepsLeft : List Task → Nat
  | [] => 0
  | task :: rest => task.remaining + stepsLeft rest

@[simp] lemma stepsLeft_append (before after : List Task) :
    stepsLeft (before ++ after) = stepsLeft before + stepsLeft after := by
  induction before with
  | nil => simp [stepsLeft]
  | cons task rest ih => simp [stepsLeft, ih, Nat.add_assoc]

def remaining (pool : Pool) : Nat := stepsLeft pool.tasks

end Pool

/-- A pool of tasks, and the session that they share. -/
abbrev Scene (σ : Type) := Pool × Session σ

variable {σ : Type} (host : Host σ) (env : Environment) (plan : Plan) (permits : Nat)

/-- One step of one task. -/
inductive Step : Scene σ → Scene σ → Prop
  | acquire {before after : List Task} {task : Task} {slots : List (Option FileReport)}
      {s : Session σ} (hphase : task.phase = .waiting)
      (hfree : Pool.busy (before ++ task :: after) < permits) :
      Step (⟨before ++ task :: after, slots⟩, s)
        (⟨before ++ { task with phase := .active } :: after, slots⟩, s)
  | invoke {before after : List Task} {task : Task} {slots : List (Option FileReport)}
      {s : Session σ} {planned : PlannedLinter} {left : List PlannedLinter}
      (hphase : task.phase = .active) (hleft : task.left = planned :: left) :
      Step (⟨before ++ task :: after, slots⟩, s)
        (⟨before ++ { task with
            left
            results := task.results ++ [(plan.invoke host env planned task.target s).1] } :: after,
          slots⟩,
          (plan.invoke host env planned task.target s).2)
  | finish {before after : List Task} {task : Task} {slots : List (Option FileReport)}
      {s : Session σ} (hphase : task.phase = .active) (hleft : task.left = []) :
      Step (⟨before ++ task :: after, slots⟩, s)
        (⟨before ++ { task with phase := .finished } :: after, slots⟩, s)
  | join {before after : List Task} {task : Task} {slots : List (Option FileReport)}
      {s : Session σ} (hphase : task.phase = .finished) :
      Step (⟨before ++ task :: after, slots⟩, s)
        (⟨before ++ { task with phase := .joined } :: after,
          slots.set task.index (some task.report)⟩, s)

/-- Any number of steps. -/
abbrev Steps : Scene σ → Scene σ → Prop := Relation.ReflTransGen (Step host env plan permits)

/-- What every step keeps. -/
structure Sound (targets : List Target) (pool : Pool) : Prop where
  targets_eq : pool.tasks.map (·.target) = targets
  indices_eq : pool.tasks.map (·.index) = List.range targets.length
  slots_eq : pool.slots = pool.tasks.map Task.slot
  busy_le : Pool.busy pool.tasks ≤ permits
  chained : ∀ task ∈ pool.tasks, task.Chained plan
  left_eq : ∀ task ∈ pool.tasks, task.phase = .finished ∨ task.phase = .joined → task.left = []

variable {host env plan permits} {targets : List Target}

/-- What holds of all tasks before a step holds of all after it, if it goes over to those that do
not move and to the one that does. -/
lemma forall_replace {τ : Type} {P Q : τ → Prop} {before after : List τ} {task task' : τ}
    (h : ∀ t ∈ before ++ task :: after, P t) (hstay : ∀ t ∈ before ++ after, P t → Q t)
    (hmove : P task → Q task') : ∀ t ∈ before ++ task' :: after, Q t := by
  simp only [List.mem_append, List.mem_cons] at h hstay ⊢
  rintro t (ht | rfl | ht)
  · exact hstay t (.inl ht) (h t (.inl ht))
  · exact hmove (h task (.inr (.inl rfl)))
  · exact hstay t (.inr ht) (h t (.inr (.inr ht)))

namespace Sound

variable {before after : List Task} {task : Task} {slots : List (Option FileReport)}

/-- The index of a task is its place. -/
lemma index_eq (h : Sound plan permits targets ⟨before ++ task :: after, slots⟩) :
    task.index = before.length := by
  have hget := congrArg (·[before.length]?) h.indices_eq
  have hlen := congrArg List.length h.targets_eq
  simp only [List.map_append, List.map_cons, List.length_append, List.length_map,
    List.length_cons] at hget hlen
  rw [List.getElem?_append_right (by simp), List.length_map, Nat.sub_self,
    List.getElem?_cons_zero, List.getElem?_range (by omega)] at hget
  exact Option.some.inj hget

lemma slots_at (h : Sound plan permits targets ⟨before ++ task :: after, slots⟩) :
    slots = before.map Task.slot ++ task.slot :: after.map Task.slot := by
  simpa using h.slots_eq

/-- A step puts another task in the place of one. -/
lemma replace (h : Sound plan permits targets ⟨before ++ task :: after, slots⟩) {task' : Task}
    {slots' : List (Option FileReport)} (htarget : task'.target = task.target)
    (hindex : task'.index = task.index)
    (hslots : slots' = (before ++ task' :: after).map Task.slot)
    (hbusy : Pool.busy (before ++ task' :: after) ≤ permits) (hchained : task'.Chained plan)
    (hleft : task'.phase = .finished ∨ task'.phase = .joined → task'.left = []) :
    Sound plan permits targets ⟨before ++ task' :: after, slots'⟩ where
  targets_eq := by simpa [htarget] using h.targets_eq
  indices_eq := by simpa [hindex] using h.indices_eq
  slots_eq := hslots
  busy_le := hbusy
  chained := forall_replace h.chained (fun _ _ => id) fun _ => hchained
  left_eq := forall_replace h.left_eq (fun _ _ => id) fun _ => hleft

lemma start (plan : Plan) (permits : Nat) (targets : List Target) :
    Sound plan permits targets (Pool.start plan targets) where
  targets_eq := by
    simp [Pool.start, List.mapIdx_eq_zipIdx_map, Function.comp_def, Task.start]
  indices_eq := by
    simp [Pool.start, List.mapIdx_eq_zipIdx_map, Function.comp_def, Task.start,
      List.range_eq_range']
  slots_eq := by
    simp [Pool.start, List.mapIdx_eq_zipIdx_map, Function.comp_def, Task.start, Task.slot]
  busy_le := by
    rw [Pool.busy, List.countP_eq_zero.mpr]
    · exact Nat.zero_le _
    · intro task htask
      obtain ⟨i, target, rfl⟩ := Pool.mem_start htask
      simp [Task.start]
  chained := by
    intro task htask
    obtain ⟨i, target, rfl⟩ := Pool.mem_start htask
    exact ⟨[], rfl, rfl⟩
  left_eq := by
    intro task htask h
    obtain ⟨i, target, rfl⟩ := Pool.mem_start htask
    simp [Task.start] at h

end Sound

lemma Step.sound {scene scene' : Scene σ} (hstep : Step host env plan permits scene scene')
    (h : Sound plan permits targets scene.1) : Sound plan permits targets scene'.1 := by
  cases hstep with
  | @acquire before after task slots s hphase hfree =>
    refine h.replace rfl rfl ?_ ?_ (h.chained task (by simp)) (by simp)
    · rw [h.slots_at, Task.slot_of_ne (by simp [hphase])]
      simp [Task.slot]
    · simp [Pool.busy, hphase] at hfree ⊢
      omega
  | @invoke before after task slots s planned left hphase hleft =>
    refine h.replace rfl rfl ?_ ?_ ?_ (by simp [hphase])
    · rw [h.slots_at, Task.slot_of_ne (by simp [hphase])]
      simp [Task.slot, hphase]
    · simpa [Pool.busy, hphase] using h.busy_le
    · obtain ⟨ran, hran, hnames⟩ := h.chained task (by simp)
      refine ⟨ran ++ [planned], ?_, ?_⟩
      · rw [hran, hleft]; simp
      · simp [hnames]
  | @finish before after task slots s hphase hleft =>
    refine h.replace rfl rfl ?_ ?_ (h.chained task (by simp)) (fun _ => hleft)
    · rw [h.slots_at, Task.slot_of_ne (by simp [hphase])]
      simp [Task.slot]
    · have := h.busy_le
      simp [Pool.busy, hphase] at this ⊢
      omega
  | @join before after task slots s hphase =>
    refine h.replace rfl rfl ?_ ?_ (h.chained task (by simp))
      (fun _ => h.left_eq task (by simp) (.inl hphase))
    · rw [h.index_eq, h.slots_at, List.set_append_right _ _ (by simp)]
      simp [Task.slot, Task.report]
    · simpa [Pool.busy, hphase] using h.busy_le

/-- **What every schedule keeps.** -/
theorem Steps.sound {scene scene' : Scene σ} (hsteps : Steps host env plan permits scene scene')
    (h : Sound plan permits targets scene.1) : Sound plan permits targets scene'.1 := by
  induction hsteps with
  | refl => exact h
  | tail _ hstep ih => exact hstep.sound ih

/-- A step starts at most one process, and that for a linter that is to see one of the targets. -/
lemma Step.started {scene scene' : Scene σ} (hstep : Step host env plan permits scene scene')
    (h : Sound plan permits targets scene.1) :
    ∃ command? : Option Command, scene'.2.started = scene.2.started ++ command?.toList ∧
      ∀ command ∈ command?, ∃ target ∈ targets, ∃ planned ∈ plan.lintersFor target,
        command = plan.toolCommand env planned target := by
  cases hstep with
  | @invoke before after task slots s planned left hphase hleft =>
    refine ⟨_, Plan.started_invoke, fun command hcommand => ⟨task.target, ?_, planned, ?_,
      Plan.eq_of_mem_process? hcommand⟩⟩
    · rw [← h.targets_eq]
      exact List.mem_map_of_mem (by simp)
    · obtain ⟨ran, hran, -⟩ := h.chained task (by simp)
      simp [hran, hleft]
  | _ => exact ⟨none, by simp, by simp⟩

/-! ### Progress -/

/-- As long as a slot is empty some task can move, if there is a permit at all. -/
lemma Sound.exists_step {pool : Pool} (h : Sound plan permits targets pool) (hpermits : 0 < permits)
    (hempty : none ∈ pool.slots) (s : Session σ) :
    ∃ scene, Step host env plan permits (pool, s) scene := by
  obtain ⟨tasks, slots⟩ := pool
  by_cases hactive : ∃ task ∈ tasks, task.phase = .active
  · -- an active task runs its next linter, or gives its permit back
    obtain ⟨task, htask, hphase⟩ := hactive
    obtain ⟨before, after, rfl⟩ := List.append_of_mem htask
    cases hleft : task.left with
    | nil => exact ⟨_, .finish hphase hleft⟩
    | cons planned left => exact ⟨_, .invoke hphase hleft⟩
  · -- no permit is held, so a waiting task can take one
    obtain ⟨task, htask, hslot⟩ : ∃ task ∈ tasks, task.slot = none := by
      rw [h.slots_eq] at hempty
      exact List.mem_map.mp hempty
    obtain ⟨before, after, rfl⟩ := List.append_of_mem htask
    have hbusy : Pool.busy (before ++ task :: after) = 0 := by
      rw [Pool.busy, List.countP_eq_zero]
      intro t ht
      simpa using fun hphase => hactive ⟨t, ht, hphase⟩
    cases hphase : task.phase with
    | waiting => exact ⟨_, .acquire hphase (by omega)⟩
    | active => exact absurd ⟨task, htask, hphase⟩ hactive
    | finished => exact ⟨_, .join hphase⟩
    | joined => simp [Task.slot, hphase] at hslot

/-- Every step uses up one of the steps that remain, so that no schedule goes on for ever. -/
lemma Step.remaining {scene scene' : Scene σ} (hstep : Step host env plan permits scene scene') :
    scene'.1.remaining + 1 = scene.1.remaining := by
  cases hstep with
  | acquire hphase hfree =>
    simp [Pool.remaining, Pool.stepsLeft, Task.remaining, hphase]
    omega
  | invoke hphase hleft =>
    simp [Pool.remaining, Pool.stepsLeft, Task.remaining, hphase, hleft]
    omega
  | finish hphase hleft =>
    simp [Pool.remaining, Pool.stepsLeft, Task.remaining, hphase]
    omega
  | join hphase =>
    simp [Pool.remaining, Pool.stepsLeft, Task.remaining, hphase]
    omega

/-- Every schedule can be brought to an end. -/
lemma Sound.exists_steps {pool : Pool} (h : Sound plan permits targets pool)
    (hpermits : 0 < permits) (s : Session σ) :
    ∃ scene, Steps host env plan permits (pool, s) scene ∧ none ∉ scene.1.slots := by
  induction hn : pool.remaining generalizing pool s with
  | zero =>
    refine ⟨(pool, s), .refl, fun hempty => ?_⟩
    obtain ⟨scene, hstep⟩ : ∃ scene, Step host env plan permits (pool, s) scene :=
      h.exists_step hpermits hempty s
    have := hstep.remaining
    simp only at this
    omega
  | succ n ih =>
    by_cases hempty : none ∈ pool.slots
    · obtain ⟨⟨pool', s'⟩, hstep⟩ : ∃ scene, Step host env plan permits (pool, s) scene :=
        h.exists_step hpermits hempty s
      have hremaining := hstep.remaining
      simp only at hremaining
      obtain ⟨scene, hsteps, hfull⟩ := ih (hstep.sound h) s' (by simp only; omega)
      exact ⟨scene, .head hstep hsteps, hfull⟩
    · exact ⟨(pool, s), .refl, hempty⟩

/-! ### Full slots -/

section Full

variable {pool : Pool}

lemma Sound.joined (h : Sound plan permits targets pool) (hfull : none ∉ pool.slots) :
    ∀ task ∈ pool.tasks, task.phase = .joined := by
  intro task htask
  by_contra hphase
  rw [h.slots_eq] at hfull
  exact hfull (List.mem_map.mpr ⟨task, htask, Task.slot_of_ne hphase⟩)

lemma Sound.reports_eq (h : Sound plan permits targets pool) (hfull : none ∉ pool.slots) :
    pool.reports = pool.tasks.map Task.report := by
  have hslots : pool.slots = pool.tasks.map (some ∘ Task.report) := by
    rw [h.slots_eq]
    exact List.map_congr_left fun task htask => if_pos (h.joined hfull task htask)
  simp [Pool.reports, List.reduceOption, hslots, List.filterMap_map, Function.comp_def]

/-- **No pair is lost.** Full slots hold one report for each file, in the order of the files, and
in it one result for each linter that is to see the file, in the order of the plan. -/
theorem Sound.map_reports (h : Sound plan permits targets pool) (hfull : none ∉ pool.slots) :
    pool.reports.map (fun file => (file.path, file.results.map (·.linter))) =
      targets.map fun target =>
        (target.path, (plan.lintersFor target).map (·.linter.linter)) := by
  rw [h.reports_eq hfull, ← h.targets_eq, List.map_map, List.map_map]
  refine List.map_congr_left fun task htask => ?_
  obtain ⟨ran, hran, hnames⟩ := h.chained task htask
  have hleft := h.left_eq task htask (.inr (h.joined hfull task htask))
  simp [Task.report, hran, hnames, hleft]

end Full

/-! ### One file after the other -/

section Sequential

variable {before after : List Task} {task : Task} {slots : List (Option FileReport)}

lemma steps_invokeAll (hphase : task.phase = .active) (s : Session σ) :
    Steps host env plan permits (⟨before ++ task :: after, slots⟩, s)
      (⟨before ++ { task with
          left := []
          results := task.results ++ (plan.invokeAll host env task.target task.left s).1 } :: after,
        slots⟩,
        (plan.invokeAll host env task.target task.left s).2) := by
  induction hleft : task.left generalizing task s with
  | nil =>
    have htask : { task with left := [], results := task.results ++ [] } = task := by
      rw [List.append_nil, ← hleft]
    simp only [Plan.invokeAll, htask]
    exact .refl
  | cons planned rest ih =>
    refine .head (.invoke hphase hleft) ?_
    have hrest := @ih { task with
        left := rest
        results := task.results ++ [(plan.invoke host env planned task.target s).1] } hphase
      (plan.invoke host env planned task.target s).2 rfl
    simpa [Plan.invokeAll] using hrest

/-- While no other task holds a permit, a waiting one can go all the way. -/
lemma steps_task (hphase : task.phase = .waiting) (hresults : task.results = [])
    (hbusy : Pool.busy (before ++ task :: after) < permits) (s : Session σ) :
    Steps host env plan permits (⟨before ++ task :: after, slots⟩, s)
      (⟨before ++ { task with
          phase := .joined
          left := []
          results := (plan.invokeAll host env task.target task.left s).1 } :: after,
        slots.set task.index
          (some ⟨task.target.path, (plan.invokeAll host env task.target task.left s).1⟩)⟩,
        (plan.invokeAll host env task.target task.left s).2) := by
  refine .head (.acquire hphase hbusy) ((steps_invokeAll rfl s).trans ?_)
  refine .head (.finish rfl rfl) (.trans (.single (.join rfl)) ?_)
  simp only [hresults, List.nil_append, Task.report]
  exact .refl

lemma exists_steps_tasks (hpermits : 0 < permits) {joined fresh : List Task}
    (hjoined : ∀ t ∈ joined, t.phase = .joined)
    (hfresh : ∀ t ∈ fresh, t.phase = .waiting ∧ t.left = plan.lintersFor t.target ∧ t.results = [])
    (slots : List (Option FileReport)) (s : Session σ) :
    ∃ pool, Steps host env plan permits (⟨joined ++ fresh, slots⟩, s)
        (pool, (plan.lintFiles host env (fresh.map (·.target)) s).2) ∧
      (∀ t ∈ pool.tasks, t.phase = .joined) ∧
      pool.tasks.map Task.report =
        joined.map Task.report ++ (plan.lintFiles host env (fresh.map (·.target)) s).1 := by
  induction fresh generalizing joined slots s with
  | nil => exact ⟨⟨joined, slots⟩, by simpa [Plan.lintFiles] using .refl, hjoined, by
      simp [Plan.lintFiles]⟩
  | cons task fresh ih =>
    obtain ⟨⟨hphase, hleft, hresults⟩, hfresh⟩ := List.forall_mem_cons.mp hfresh
    have hbusy : Pool.busy (joined ++ task :: fresh) = 0 := by
      rw [Pool.busy, List.countP_eq_zero]
      intro t ht
      rcases List.mem_append.mp ht with ht | ht
      · simp [hjoined t ht]
      · rcases List.mem_cons.mp ht with rfl | ht
        · simp [hphase]
        · simp [(hfresh t ht).1]
    have htask : Steps host env plan permits (⟨joined ++ task :: fresh, slots⟩, s) _ :=
      steps_task hphase hresults (hbusy ▸ hpermits) s
    rw [hleft] at htask
    obtain ⟨pool, hsteps, hpool, hreports⟩ := @ih
      (joined ++ [{ task with
        phase := .joined
        left := []
        results := (plan.invokeAll host env task.target (plan.lintersFor task.target) s).1 }])
      (by simpa [or_imp, forall_and] using hjoined) hfresh _
      (plan.invokeAll host env task.target (plan.lintersFor task.target) s).2
    rw [List.append_assoc, List.singleton_append] at hsteps
    refine ⟨pool, htask.trans hsteps, hpool, ?_⟩
    simp [hreports, Plan.lintFiles, Plan.lintFile_eq, Task.report]

/-- **One file after the other** is one of the schedules. -/
theorem exists_steps_lintFiles (hpermits : 0 < permits) (targets : List Target) (s : Session σ) :
    ∃ pool, Steps host env plan permits (.start plan targets, s)
        (pool, (plan.lintFiles host env targets s).2) ∧
      none ∉ pool.slots ∧ pool.reports = (plan.lintFiles host env targets s).1 := by
  have hfresh : ∀ t ∈ (Pool.start plan targets).tasks,
      t.phase = .waiting ∧ t.left = plan.lintersFor t.target ∧ t.results = [] := by
    intro t ht
    obtain ⟨i, target, rfl⟩ := Pool.mem_start ht
    exact ⟨rfl, rfl, rfl⟩
  have hstart := Sound.start plan permits targets
  obtain ⟨pool, hsteps, hjoined, hreports⟩ : ∃ pool, Steps host env plan permits
      (⟨(Pool.start plan targets).tasks, (Pool.start plan targets).slots⟩, s) (pool, _) ∧ _ :=
    exists_steps_tasks hpermits (List.forall_mem_nil _) hfresh _ s
  rw [hstart.targets_eq] at hsteps hreports
  have hsound := Steps.sound hsteps hstart
  have hfull : none ∉ pool.slots := by
    rw [hsound.slots_eq]
    intro hnone
    obtain ⟨t, ht, hslot⟩ := List.mem_map.mp hnone
    simp [Task.slot, hjoined t ht] at hslot
  exact ⟨pool, hsteps, hfull, (hsound.reports_eq hfull).trans hreports⟩

end Sequential

end LintChain.Workers

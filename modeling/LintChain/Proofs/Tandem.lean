import LintChain.Proofs.Mirror

/-!
Courses on two machines. Where machines cannot be told apart by what a run asks of them, and two
configurations ask for the same work, every course of one run is a course of the other: the same is
seen of both, step by step, in whatever order the probes and the files are worked on.
-/

namespace LintChain

/-- The linters that a report has results of. -/
def RunReport.linters (run : RunReport) : List Linter :=
  run.bootstrap.results.map (·.linter) ++
    run.files.flatMap fun file => file.results.map (·.linter)

namespace Course

variable {σ ω : Type}

/-- The same phase under another configuration. -/
def Phase.under (config : Config) : Phase → Phase
  | writing part lines next => writing part lines (next.under config)
  | probing _ targets tasks => probing config targets tasks
  | engaging _ targets report => engaging config targets report
  | linting _ targets report pool => linting config targets report pool
  | flushing run => flushing run
  | ended result => ended result

/-- The linters that a phase has results of, or is about to get them. -/
def Phase.linters : Phase → List Linter
  | writing _ _ next => next.linters
  | probing _ _ tasks => tasks.map (·.name)
  | engaging _ _ report => report.results.map (·.linter)
  | linting _ _ report pool => report.results.map (·.linter) ++
      pool.tasks.flatMap fun task => task.results.map (·.linter)
  | flushing run => run.linters
  | ended _ => []

/-- A probe is one of an enabled linter, with a program that stands where it was looked for. -/
def ProbeTask.Placed (env : Environment) (inv : Invocation) (config : Config) : ProbeTask → Prop
  | waiting r => r ∈ config.enabledLinters
  | ready r program .. | running r program .. =>
    r ∈ config.enabledLinters ∧ program ∈ inv.places env r
  | done probed => probed.Placed env inv config

/-- A phase is about the files of a run under a configuration, with programs that stand where they
were looked for. -/
def Phase.Placed (env : Environment) (inv : Invocation) (cores : Nat) (config : Config)
    (targets : List Target) : Phase → Prop
  | writing _ _ next => next.Placed env inv cores config targets
  | probing config' targets' tasks =>
    config' = config ∧ targets' = targets ∧ ∀ task ∈ tasks, task.Placed env inv config
  | engaging config' targets' report =>
    config' = config ∧ targets' = targets ∧ report.Placed env inv config
  | linting config' targets' report pool =>
    config' = config ∧ targets' = targets ∧ report.Placed env inv config ∧
      Workers.Sound (Setting.plan inv config report) (config.jobs?.getD cores) targets pool
  | flushing run => ∀ l ∈ run.linters, l ∈ config.enabledLinters.map (·.linter)
  | ended _ => True

section Phases

variable {env : Environment} {inv : Invocation} {cores : Nat} {config config' : Config}
  {targets : List Target} {report : BootstrapReport}

lemma plan_congr (h : config.SameWork config') :
    Setting.plan inv config report = Setting.plan inv config' report :=
  congrArg Prod.fst (Setting.ofBootstrap_congr h report)

lemma under_failed (e : LintError) : (failed e).under config = failed e := by
  cases e <;> rfl

lemma under_refused (part : Part) (e : WriteError) :
    (refused part e).under config = refused part e := by
  cases part <;> rfl

lemma under_writingIf (wanted : Bool) (part : Part) (lines : List Line) (next : Phase) :
    (writingIf wanted part lines next).under config =
      writingIf wanted part lines (next.under config) := by
  cases wanted <;> rfl

lemma under_listing : (listing config targets report).under config' =
    listing config' targets report := by
  cases targets <;> rfl

lemma under_assessed : (assessed inv config targets report).under config' =
    assessed inv config' targets report := by
  unfold assessed
  split
  · rw [under_writingIf, under_listing]
  · exact under_failed _

lemma under_opening (h : config.SameWork config') :
    (opening inv config targets).under config' = opening inv config' targets := by
  unfold opening
  split
  · exact under_listing
  · rw [under_writingIf, Phase.under, h.enabledLinters_eq]

lemma placed_failed (e : LintError) : (failed e).Placed env inv cores config targets := by
  cases e <;> trivial

lemma placed_refused (part : Part) (e : WriteError) :
    (refused part e).Placed env inv cores config targets := by
  cases part <;> trivial

lemma placed_writingIf {wanted : Bool} {part : Part} {lines : List Line} {next : Phase}
    (h : next.Placed env inv cores config targets) :
    (writingIf wanted part lines next).Placed env inv cores config targets := by
  cases wanted <;> exact h

lemma placed_listing (h : report.Placed env inv config) :
    (listing config targets report).Placed env inv cores config targets := by
  cases targets with
  | nil => trivial
  | cons => exact ⟨rfl, rfl, h⟩

lemma placed_assessed (h : report.Placed env inv config) :
    (assessed inv config targets report).Placed env inv cores config targets := by
  unfold assessed
  split
  · exact placed_writingIf (placed_listing h)
  · exact placed_failed _

lemma placed_opening : (opening inv config targets).Placed env inv cores config targets := by
  unfold opening
  split
  · exact placed_listing (List.forall_mem_nil _)
  · refine placed_writingIf ⟨rfl, rfl, fun task htask => ?_⟩
    obtain ⟨r, hr, rfl⟩ := List.mem_map.mp htask
    exact hr

/-! ### Results of enabled linters only -/

/-- The linter of a probe is enabled. -/
lemma ProbeTask.Placed.name_mem {task : ProbeTask} (h : task.Placed env inv config) :
    task.name ∈ config.enabledLinters.map (·.linter) := by
  cases task with
  | waiting r => exact List.mem_map_of_mem h
  | ready r _ _ _ | running r _ _ _ => exact List.mem_map_of_mem h.1
  | done probed =>
    obtain ⟨r, hr, hlinter, -⟩ := h
    exact List.mem_map.mpr ⟨r, hr, hlinter⟩

lemma mem_of_placed (h : report.Placed env inv config) {l : Linter}
    (hl : l ∈ report.results.map (·.linter)) : l ∈ config.enabledLinters.map (·.linter) := by
  obtain ⟨probed, hprobed, rfl⟩ := List.mem_map.mp hl
  obtain ⟨r, hr, hlinter, -⟩ := h probed hprobed
  exact List.mem_map.mpr ⟨r, hr, hlinter⟩

/-- The results of a file come from linters of the plan. -/
lemma mem_of_chained {task : Workers.Task} (h : task.Chained (Setting.plan inv config report))
    {l : Linter} (hl : l ∈ task.results.map (·.linter)) :
    l ∈ config.enabledLinters.map (·.linter) := by
  obtain ⟨ran, hran, hresults⟩ := h
  rw [hresults] at hl
  obtain ⟨planned, hplanned, rfl⟩ := List.mem_map.mp hl
  have hmem : planned ∈ (Setting.plan inv config report).lintersFor task.target := by
    simp [hran, hplanned]
  exact List.mem_map_of_mem (Plan.linter_mem_of_mem (Plan.mem_lintersFor.mp hmem).1)

/-- The reports of a pool are those of its tasks. -/
lemma exists_task_of_mem_reports {plan : Plan} {permits : Nat} {pool : Workers.Pool}
    (h : Workers.Sound plan permits targets pool) {file : FileReport}
    (hfile : file ∈ pool.reports) :
    ∃ task ∈ pool.tasks, task.report = file := by
  rw [Workers.Pool.reports, List.reduceOption_mem_iff, h.slots_eq] at hfile
  obtain ⟨task, htask, hslot⟩ := List.mem_map.mp hfile
  unfold Workers.Task.slot at hslot
  split at hslot
  · exact ⟨task, htask, Option.some.inj hslot⟩
  · cases hslot

/-- What a phase knows or is about to find out is about enabled linters. -/
lemma Phase.Placed.linters_subset {phase : Phase} (h : phase.Placed env inv cores config targets) :
    phase.linters ⊆ config.enabledLinters.map (·.linter) := by
  induction phase with
  | writing part lines next ih => exact ih h
  | probing config' targets' tasks =>
    obtain ⟨-, -, htasks⟩ := h
    intro l hl
    obtain ⟨task, htask, rfl⟩ := List.mem_map.mp hl
    exact (htasks task htask).name_mem
  | engaging config' targets' report =>
    obtain ⟨-, -, hreport⟩ := h
    exact fun l => mem_of_placed hreport
  | linting config' targets' report pool =>
    obtain ⟨-, -, hreport, hsound⟩ := h
    intro l hl
    rcases List.mem_append.mp hl with hl | hl
    · exact mem_of_placed hreport hl
    · obtain ⟨task, htask, hl⟩ := List.mem_flatMap.mp hl
      exact mem_of_chained (hsound.chained task htask) hl
  | flushing run => exact h
  | ended result => exact List.nil_subset _

/-- The report of a pool is about enabled linters. -/
lemma linters_gathered {permits : Nat} {pool : Workers.Pool}
    (hreport : report.Placed env inv config)
    (hsound : Workers.Sound (Setting.plan inv config report) permits targets pool) {l : Linter}
    (hl : l ∈ (RunReport.mk report pool.reports).linters) :
    l ∈ config.enabledLinters.map (·.linter) := by
  rcases List.mem_append.mp hl with hl | hl
  · exact mem_of_placed hreport hl
  · obtain ⟨file, hfile, hl⟩ := List.mem_flatMap.mp hl
    obtain ⟨task, htask, rfl⟩ := exists_task_of_mem_reports hsound hfile
    exact mem_of_chained (hsound.chained task htask) hl

end Phases

/-! ### One step -/

section Steps

variable {host : Host σ} {env : Environment} {inv : Invocation} {config : Config}
  {targets : List Target} {kept : Set Path} {R : σ → σ → Prop}
  (c : Mirrors host env inv config targets kept R) {s s' t : Session σ}

include c

/-- A probe shows the same on both machines. -/
lemma probeShown_eq {r : ResolvedLinter} (hr : r ∈ config.enabledLinters) {program : Path}
    (hprogram : program ∈ inv.places env r) (h : s.InStep R t) :
    let settings := Setting.probeSettings inv config
    probeShown host env settings r program s.machine =
        probeShown host env settings r program t.machine ∧
      (s.await host (probeCommand env settings r program)).2.InStep R
        (t.await host (probeCommand env settings r program)).2 := by
  have hc : Starts env inv config targets _ := .probe hr hprogram
  exact ⟨congrArg Probe.ofResult (c.result_eq h.machine hc), (c.await h hc).snd⟩

lemma ProbeStep.tandem {task task' : ProbeTask} {act? : Option Act}
    (hstep : ProbeStep host env (Setting.probeSettings inv config) task s act? task' s')
    (hplaced : task.Placed env inv config) (h : s.InStep R t) :
    task'.Placed env inv config ∧ ∃ t',
      ProbeStep host env (Setting.probeSettings inv config) task t act? task' t' ∧
        s'.InStep R t' := by
  cases hstep with
  | missing hnone =>
    have hnone' := (c.find?_eq hplaced h).symm.trans hnone
    exact ⟨⟨_, hplaced, rfl, by rintro program version ⟨⟩⟩, _, .missing hnone', h⟩
  | found hsome =>
    have hsome' := (c.find?_eq hplaced h).symm.trans hsome
    exact ⟨⟨hplaced, Executable.mem_of_find? hsome⟩, _, .found hsome', h.warn _ _⟩
  | launch => exact ⟨hplaced, _, .launch, h.record _⟩
  | retry hfault =>
    obtain ⟨hshown, hafter⟩ := probeShown_eq c hplaced.1 hplaced.2 h
    rw [hshown] at hfault
    exact ⟨hplaced, _, .retry hfault, c.inStep_pause hafter _⟩
  | settle hlast =>
    obtain ⟨hshown, hafter⟩ := probeShown_eq c hplaced.1 hplaced.2 h
    rw [hshown] at hlast ⊢
    exact ⟨Bootstrap.placed_probeResult hplaced.1 hplaced.2 _ _, _, .settle hlast,
      hafter.warn _ _⟩

end Steps

section Work

variable {host : Host σ} {env : Environment} {inv : Invocation} {config : Config}
  {targets : List Target} {kept : Set Path} {R : σ → σ → Prop}
  (c : Mirrors host env inv config targets kept R) {report : BootstrapReport}
  (hlinters : config.linters.map (·.linter) = Linter.all) (hplaced : report.Placed env inv config)

include c hlinters hplaced

lemma tandem_work {permits : Nat} {pool pool' : Workers.Pool} {s s' t : Session σ}
    (hstep : Workers.Step host env (Setting.plan inv config report) permits (pool, s) (pool', s'))
    (hsound : Workers.Sound (Setting.plan inv config report) permits targets pool)
    (h : s.InStep R t) :
    ∃ t', Workers.Step host env (Setting.plan inv config report) permits (pool, t) (pool', t') ∧
      s'.InStep R t' := by
  cases hstep with
  | acquire hphase hfree => exact ⟨t, .acquire hphase hfree, h⟩
  | finish hphase hleft => exact ⟨t, .finish hphase hleft, h⟩
  | join hphase => exact ⟨t, .join hphase, h⟩
  | @invoke before after task slots _ planned left hphase hleft =>
    have htask : task.target ∈ targets := by
      rw [← hsound.targets_eq]
      exact List.mem_map_of_mem (by simp)
    have hplanned : planned ∈ (Setting.plan inv config report).lintersFor task.target := by
      obtain ⟨ran, hran, -⟩ := hsound.chained task (by simp)
      rw [hran, hleft]
      simp
    obtain ⟨hresult, hlast⟩ := c.invoke htask (Plan.starts hlinters hplaced htask hplanned) h
    rw [hresult]
    exact ⟨_, .invoke hphase hleft, hlast⟩

end Work

/-! ### Courses -/

section Moves

variable {m : Setting σ ω} {inv : Invocation} {cores : Nat} {config config' : Config}
  {targets : List Target} {kept : Set Path} {R : σ → σ → Prop}
  (c : Mirrors m.host m.env inv config targets kept R) (hwork : config.SameWork config')
  (hlinters : config.linters.map (·.linter) = Linter.all) {p p' q : Progress σ ω}

include c hwork hlinters

/-- **Step by step**: what one run can do, the other can do too. -/
lemma Move.tandem {phase phase' : Phase} {act? : Option Act}
    (hmove : Move m inv cores phase p act? phase' p')
    (hplaced : phase.Placed m.env inv cores config targets) (h : p.InStep R q) :
    phase'.Placed m.env inv cores config targets ∧ ∃ q',
      Move m inv cores (phase.under config') q act? (phase'.under config') q' ∧
        p'.InStep R q' := by
  obtain ⟨hsession, hout⟩ := h
  cases hmove with
  | write hwrite =>
    rw [hout] at hwrite
    exact ⟨hplaced, _, .write hwrite, hsession, rfl⟩
  | refuse hwrite =>
    rw [hout] at hwrite
    rw [under_refused]
    exact ⟨placed_refused _ _, _, .refuse hwrite, hsession, rfl⟩
  | probe hstep =>
    obtain ⟨rfl, rfl, htasks⟩ := hplaced
    obtain ⟨htask, t', hstep', hlast⟩ := hstep.tandem c (htasks _ (by simp)) hsession
    rw [Setting.probeSettings_congr hwork] at hstep'
    exact ⟨⟨rfl, rfl, Workers.forall_replace htasks (fun _ _ => id) fun _ => htask⟩, _,
      .probe hstep', hlast, hout⟩
  | assess =>
    obtain ⟨rfl, rfl, htasks⟩ := hplaced
    rw [under_assessed]
    refine ⟨placed_assessed fun probed hprobed => ?_, _, .assess, hsession, hout⟩
    exact htasks _ (List.mem_map_of_mem hprobed)
  | @engage _ files report _ hjobs =>
    obtain ⟨rfl, rfl, hreport⟩ := hplaced
    rw [hwork.jobs?_eq] at hjobs
    have hmove : Move m inv cores (.engaging config' files report) q none _ _ := .engage hjobs
    rw [← plan_congr hwork] at hmove
    exact ⟨⟨rfl, rfl, hreport, .start _ _ _⟩, _, hmove, hsession.warn _ _, hout⟩
  | overload hjobs hlt =>
    obtain ⟨rfl, rfl, hreport⟩ := hplaced
    rw [hwork.jobs?_eq] at hjobs
    rw [under_failed]
    exact ⟨placed_failed _, _, .overload hjobs hlt, hsession.warn _ _, hout⟩
  | @work _ _ report _ _ _ _ _ hstep hstarted =>
    obtain ⟨rfl, rfl, hreport, hsound⟩ := hplaced
    obtain ⟨t', hstep', hlast⟩ := tandem_work c hlinters hreport hstep hsound hsession
    rw [plan_congr hwork, hwork.jobs?_eq] at hstep'
    rw [hlast.started, hsession.started] at hstarted
    exact ⟨⟨rfl, rfl, hreport, hstep.sound hsound⟩, _, .work hstep' hstarted, hlast, hout⟩
  | gather hfull =>
    obtain ⟨rfl, rfl, hreport, hsound⟩ := hplaced
    exact ⟨fun l => linters_gathered hreport hsound, _, .gather hfull, hsession, hout⟩
  | flush hflush =>
    rw [hout] at hflush
    exact ⟨trivial, _, .flush hflush, hsession, rfl⟩
  | refuseFlush hflush =>
    rw [hout] at hflush
    rw [under_failed]
    exact ⟨placed_failed _, _, .refuseFlush hflush, hsession, rfl⟩

lemma Moves.tandem {phase phase' : Phase} {acts : List Act}
    (hmoves : Moves m inv cores phase p acts phase' p')
    (hplaced : phase.Placed m.env inv cores config targets) (h : p.InStep R q) :
    phase'.Placed m.env inv cores config targets ∧ ∃ q',
      Moves m inv cores (phase.under config') q acts (phase'.under config') q' ∧
        p'.InStep R q' := by
  induction hmoves with
  | refl => exact ⟨hplaced, q, .refl, h⟩
  | tail _ hmove ih =>
    obtain ⟨hmiddle, q', hmoves', hnext⟩ := ih
    obtain ⟨hlast, q'', hmove', hend⟩ := hmove.tandem c hwork hlinters hmiddle hnext
    exact ⟨hlast, q'', hmoves'.tail hmove', hend⟩

end Moves

/-- What can be seen of a whole course: its acts, its end, its text, and the contents of files after
it. -/
structure View (ω : Type) where
  acts : List Act
  result : Except LintError Nat
  out : ω
  contents : Path → Except SystemError ByteArray

/-- A run can go as this view of it says, with regard to the files in `kept`. -/
def Shows (m : Setting σ ω) (inv : Invocation) (cores : Nat) (kept : Set Path) (p : Progress σ ω)
    (view : View ω) : Prop :=
  ∃ last, Moves m inv cores (start m inv p).1 (start m inv p).2 view.acts (.ended view.result)
      last ∧
    last.out = view.out ∧
    ∀ path ∈ kept, m.host.read last.session.machine path = view.contents path

/-- Somewhere in a course of the run there is a result of the linter, or it is about to come. -/
def Names (m : Setting σ ω) (inv : Invocation) (cores : Nat) (p : Progress σ ω) (l : Linter) :
    Prop :=
  ∃ acts phase last, Moves m inv cores (start m inv p).1 (start m inv p).2 acts phase last ∧
    l ∈ phase.linters

section Courses

variable {m : Setting σ ω} {inv : Invocation} {cores : Nat} {config config' : Config}
  {targets : List Target} {kept : Set Path} {R : σ → σ → Prop} {p p' q : Progress σ ω}

lemma start_of_configured (hconfig : m.configured inv p.session.machine = .ok config)
    (htargets : m.selected inv config p.session.machine = targets) :
    start m inv p = (opening inv config targets,
      { p with session := m.prepared inv config p.session }) := by
  simp only [start, hconfig, htargets]

/-- What courses have results of is enabled linters. -/
lemma Names.mem {l : Linter} (h : Names m inv cores p l)
    (hconfig : m.configured inv p.session.machine = .ok config) :
    l ∈ config.enabledLinters.map (·.linter) := by
  obtain ⟨acts, phase, last, hmoves, hl⟩ := h
  rw [start_of_configured hconfig rfl] at hmoves
  have hplaced := (hmoves.tandem (.refl m.host m.env inv config _) (.refl config)
    (Setting.linters_of_configured hconfig) placed_opening ⟨⟨rfl, rfl⟩, rfl⟩).1
  exact hplaced.linters_subset hl

variable (c : Mirrors m.host m.env inv config targets kept R) (hwork : config.SameWork config')
  (hconfig : m.configured inv p.session.machine = .ok config)
  (hconfig' : m.configured inv q.session.machine = .ok config')
  (htargets : m.selected inv config p.session.machine = targets)
  (htargets' : m.selected inv config' q.session.machine = targets) (h : p.InStep R q)

include c hwork hconfig hconfig' htargets htargets' h

/-- **Course by course**: a course of one run is a course of the other, with the same acts, the same
text and the same end, and related machines after it. -/
theorem exists_moves {acts : List Act} {phase : Phase}
    (hmoves : Moves m inv cores (start m inv p).1 (start m inv p).2 acts phase p') :
    ∃ q', Moves m inv cores (start m inv q).1 (start m inv q).2 acts (phase.under config') q' ∧
      p'.InStep R q' := by
  rw [start_of_configured hconfig htargets] at hmoves
  rw [start_of_configured hconfig' htargets', ← under_opening hwork]
  have hprepared : Progress.InStep R { p with session := m.prepared inv config p.session }
      { q with session := m.prepared inv config' q.session } :=
    ⟨(h.session.warn _ _).warn _ _, h.out⟩
  exact (hmoves.tandem c hwork (Setting.linters_of_configured hconfig) placed_opening hprepared).2

lemma Shows.tandem {view : View ω} (hshows : Shows m inv cores kept p view) :
    Shows m inv cores kept q view := by
  obtain ⟨last, hmoves, hout, hcontents⟩ := hshows
  obtain ⟨last', hmoves', hlast⟩ :=
    exists_moves c hwork hconfig hconfig' htargets htargets' h hmoves
  refine ⟨last', hmoves', hlast.out.symm.trans hout, fun path hpath => ?_⟩
  rw [← c.read_eq hlast.session.machine hpath, hcontents path hpath]

/-- **The same views**: what can be seen of one run can be seen of the other. -/
theorem shows_iff (view : View ω) :
    Shows m inv cores kept p view ↔ Shows m inv cores kept q view :=
  ⟨.tandem c hwork hconfig hconfig' htargets htargets' h,
    .tandem (c.flip hwork) hwork.symm hconfig' hconfig htargets' htargets h.flip⟩

end Courses

end Course

end LintChain

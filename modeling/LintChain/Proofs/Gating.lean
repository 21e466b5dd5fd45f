import LintChain.Proofs.Replay
import LintChain.Proofs.Transcript

/-!
What has to happen before a process is started. A probe comes before all tools and needs an accepted
configuration and something to do; a tool is started on a file only after the probes of all enabled
linters have come to a good end and the list of the files has been written.
-/

namespace LintChain.Course

variable {σ ω : Type}

/-! ### What the acts so far allow -/

/-- No tool has been started. -/
def Untouched (acts : List Act) : Prop := ∀ command, .tool command ∉ acts

/-- If a tool has been started, no probe came to a bad end and no early part was refused. -/
def Quiet (acts : List Act) : Prop :=
  ∀ command, .tool command ∈ acts →
    (∀ result, .probed result ∈ acts → result.outcome.isAvailable) ∧
      ∀ part : Part, part.IsEarly → .refused part ∉ acts

/-- Every enabled linter has been probed, and found to be usable. -/
def Answered (config : Config) (acts : List Act) : Prop :=
  ∀ r ∈ config.enabledLinters, ∃ result, .probed result ∈ acts ∧ result.linter = r.linter ∧
    result.outcome.isAvailable

variable (m : Setting σ ω) (inv : Invocation) (cores : Nat) (p : Progress σ ω)

/-- The configuration and the files of an invocation, which is one that has something to do. -/
structure Busy (config : Config) (targets : List Target) : Prop where
  configured : m.configured inv p.session.machine = .ok config
  selected : m.selected inv config p.session.machine = targets
  wanted : targets ≠ [] ∨ inv.bootstrap = true

/-- What an act needs of the acts before it. -/
def Allowed (acts : List Act) : Act → Prop
  | .probe command => Untouched acts ∧ ∃ config targets, Busy m inv p config targets ∧
      ∃ r ∈ config.enabledLinters, ∃ program,
        command = probeCommand m.env (Setting.probeSettings inv config) r program
  | .tool command => ∃ config targets, Busy m inv p config targets ∧ Answered config acts ∧
      .wrote .fileList ∈ acts ∧
      (inv.bootstrap = true → .wrote .progress ∈ acts ∧ .wrote .verdict ∈ acts) ∧
      ∃ target ∈ targets, ∃ planned : PlannedLinter, planned.linter ∈ config.enabledLinters ∧
        planned.linter.includes target.path.text ∧
        command = ⟨planned.program, planned.linter.args ++ [target.path.text], inv.cwd,
          (m.env.toolVariables planned.linter.linter).1, config.timeout?⟩
  | _ => True

/-! ### What a phase knows of the acts so far -/

/-- The tasks are about the enabled linters, and those are done whose results are known. -/
structure Tracked (config : Config) (tasks : List ProbeTask) (acts : List Act) : Prop where
  names_eq : tasks.map ProbeTask.name = config.enabledLinters.map (·.linter)
  enabled : ∀ task ∈ tasks, ∀ r, task.linter? = some r → r ∈ config.enabledLinters
  probed_iff : ∀ result, .probed result ∈ acts ↔ .done result ∈ tasks

/-- While the probes go on. -/
structure Probing (config : Config) (targets : List Target) (tasks : List ProbeTask)
    (acts : List Act) : Prop where
  busy : Busy m inv p config targets
  untouched : Untouched acts
  unrefused : ∀ part, .refused part ∉ acts
  announced : inv.bootstrap = true → .wrote .progress ∈ acts
  tracked : Tracked config tasks acts

/-- All that is needed before the files may be touched. -/
structure Cleared (config : Config) (targets : List Target) (acts : List Act) : Prop where
  busy : Busy m inv p config targets
  available : ∀ result, .probed result ∈ acts → result.outcome.isAvailable
  answered : Answered config acts
  unrefused : ∀ part, .refused part ∉ acts
  announced : inv.bootstrap = true → .wrote .progress ∈ acts ∧ .wrote .verdict ∈ acts
  listed : .wrote .fileList ∈ acts

/-- The acts so far fit a phase. -/
def Fits : List Act → Phase → Prop
  | acts, .writing part _ next =>
    (part.IsEarly → Untouched acts) ∧ Quiet acts ∧ Fits (acts ++ [.wrote part]) next
  | acts, .probing config targets tasks => Probing m inv p config targets tasks acts
  | acts, .engaging config targets _ => Untouched acts ∧ Cleared m inv p config targets acts
  | acts, .linting config targets report pool =>
    Cleared m inv p config targets acts ∧
      Workers.Sound (Setting.plan inv config report) (config.jobs?.getD cores) targets pool
  | acts, .flushing _ => Quiet acts
  | acts, .ended _ => Quiet acts

variable {m inv cores p} {acts : List Act} {config : Config} {targets : List Target}

lemma Untouched.quiet (h : Untouched acts) : Quiet acts :=
  fun command hmem => absurd hmem (h command)

lemma Untouched.snoc (h : Untouched acts) {act : Act} (hact : ∀ command, act ≠ .tool command) :
    Untouched (acts ++ [act]) := by
  intro command hmem
  rcases List.mem_append.mp hmem with hmem | hmem
  · exact h command hmem
  · exact hact command (List.mem_singleton.mp hmem).symm

lemma Quiet.wrote (h : Quiet acts) (part : Part) : Quiet (acts ++ [.wrote part]) := by
  intro command hmem
  simp only [List.mem_append, List.mem_singleton, reduceCtorEq, or_false] at hmem ⊢
  exact h command hmem

lemma Quiet.refused {part : Part} (h : Quiet acts) (hearly : part.IsEarly → Untouched acts) :
    Quiet (acts ++ [.refused part]) := by
  intro command hmem
  simp only [List.mem_append, List.mem_singleton, reduceCtorEq, or_false, Act.refused.injEq,
    not_or] at hmem ⊢
  refine ⟨(h command hmem).1, fun part' hpart' => ⟨(h command hmem).2 part' hpart', ?_⟩⟩
  rintro rfl
  exact hearly hpart' command hmem

lemma Answered.mono {acts' : List Act} (h : Answered config acts) (hsub : acts ⊆ acts') :
    Answered config acts' := by
  intro r hr
  obtain ⟨result, hmem, hresult⟩ := h r hr
  exact ⟨result, hsub hmem, hresult⟩

lemma Cleared.quiet (h : Cleared m inv p config targets acts) : Quiet acts :=
  fun _ _ => ⟨h.available, fun part _ => h.unrefused part⟩

lemma Cleared.tool (h : Cleared m inv p config targets acts) (command : Command) :
    Cleared m inv p config targets (acts ++ [.tool command]) where
  busy := h.busy
  available := by simpa using h.available
  answered := h.answered.mono (List.subset_append_left _ _)
  unrefused := by simpa using h.unrefused
  announced := by simpa using h.announced
  listed := by simpa using h.listed

lemma fits_failed (h : Quiet acts) (e : LintError) : Fits m inv cores p acts (failed e) := by
  cases e with
  | workers e => exact h
  | _ => exact ⟨False.elim, h, h.wrote .closing⟩

lemma fits_refused {part : Part} (h : Quiet acts) (e : WriteError) :
    Fits m inv cores p acts (refused part e) := by
  cases part with
  | closing => exact h
  | _ => exact fits_failed h (.write e)

lemma fits_writingIf {wanted : Bool} {part : Part} {lines : List Line} {next : Phase}
    (h : Untouched acts)
    (hnext : Fits m inv cores p (acts ++ if wanted then [.wrote part] else []) next) :
    Fits m inv cores p acts (writingIf wanted part lines next) := by
  cases wanted with
  | false => simpa [writingIf] using hnext
  | true => exact ⟨fun _ => h, h.quiet, hnext⟩

/-! ### What a step keeps -/

section ProbeStep

variable {host : Host σ} {env : Environment} {settings : ProbeSettings} {task task' : ProbeTask}
  {s s' : Session σ} {act? : Option Act}

lemma ProbeStep.name_eq (hstep : ProbeStep host env settings task s act? task' s') :
    task'.name = task.name := by
  cases hstep <;> rfl

lemma ProbeStep.linter?_eq (hstep : ProbeStep host env settings task s act? task' s')
    {r : ResolvedLinter} (h : task'.linter? = some r) : task.linter? = some r := by
  cases hstep <;> simp_all [ProbeTask.linter?]

/-- A probe can be seen in probes only. -/
lemma ProbeStep.mem_of_mem (hstep : ProbeStep host env settings task s act? task' s') {act : Act}
    (hmem : act ∈ acts ++ act?.toList) (hprobe : ∀ command, act ≠ .probe command)
    (hprobed : ∀ result, act ≠ .probed result) : act ∈ acts := by
  cases hstep <;> simp_all

lemma ProbeStep.tracked (hstep : ProbeStep host env settings task s act? task' s')
    {before after : List ProbeTask} (h : Tracked config (before ++ task :: after) acts) :
    Tracked config (before ++ task' :: after) (acts ++ act?.toList) where
  names_eq := by simpa [hstep.name_eq] using h.names_eq
  enabled := by
    intro t ht r hr
    simp only [List.mem_append, List.mem_cons] at ht
    rcases ht with ht | rfl | ht
    · exact h.enabled t (by simp [ht]) r hr
    · exact h.enabled task (by simp) r (hstep.linter?_eq hr)
    · exact h.enabled t (by simp [ht]) r hr
  probed_iff := by
    intro result
    have hiff := h.probed_iff result
    simp only [List.mem_append, List.mem_cons] at hiff ⊢
    cases hstep with
    | missing | settle =>
      -- the result is known, and the task is done
      simp only [reduceCtorEq, false_or] at hiff
      simp only [hiff, Option.mem_toList, Option.some.injEq, Act.probed.injEq,
        ProbeTask.done.injEq, eq_comm]
      tauto
    | _ => simpa using hiff

end ProbeStep

lemma Tracked.start (h : ∀ result, .probed result ∉ acts) :
    Tracked config (config.enabledLinters.map .waiting) acts where
  names_eq := by simp [Function.comp_def, ProbeTask.name]
  enabled := by
    intro task htask r hr
    obtain ⟨r', hr', rfl⟩ := List.mem_map.mp htask
    obtain rfl : r' = r := Option.some.inj hr
    exact hr'
  probed_iff := by simp [h]

/-- Once all tasks are done, the report holds all that the probes came to. -/
lemma Tracked.done {results : List Probed} (h : Tracked config (results.map .done) acts)
    (hsuccess : (BootstrapReport.mk results).isSuccess) :
    (∀ result, .probed result ∈ acts → result.outcome.isAvailable) ∧ Answered config acts := by
  have hmem : ∀ result, .probed result ∈ acts ↔ result ∈ results := by simpa using h.probed_iff
  have hnames : results.map (·.linter) = config.enabledLinters.map (·.linter) := by
    simpa [Function.comp_def, ProbeTask.name] using h.names_eq
  refine ⟨fun result hresult => ?_, fun r hr => ?_⟩
  · exact List.all_eq_true.mp hsuccess result ((hmem result).mp hresult)
  · obtain ⟨result, hresult, hlinter, havailable⟩ :=
      BootstrapReport.answers_of_isSuccess hnames hsuccess r hr
    exact ⟨result, (hmem result).mpr hresult, hlinter, havailable⟩

lemma fits_listing {report : BootstrapReport} (h : Untouched acts)
    (hcleared : targets ≠ [] → Cleared m inv p config targets (acts ++ [.wrote .fileList])) :
    Fits m inv cores p acts (listing config targets report) := by
  have huntouched : Untouched (acts ++ [.wrote .fileList]) := h.snoc (by simp)
  refine ⟨fun _ => h, h.quiet, ?_⟩
  cases targets with
  | nil => exact huntouched.quiet
  | cons target rest => exact ⟨huntouched, hcleared (List.cons_ne_nil _ _)⟩

lemma fits_start : Fits m inv cores p [] (start m inv p).1 := by
  have huntouched : Untouched [] := by simp [Untouched]
  unfold start
  cases hconfig : m.configured inv p.session.machine with
  | error e => exact fits_failed huntouched.quiet (.config e)
  | ok config =>
    dsimp only
    unfold opening
    split
    next hidle =>
      have hnone := List.isEmpty_iff.mp (Bool.and_eq_true_iff.mp hidle).1
      exact fits_listing huntouched fun hsome => absurd hnone hsome
    next hbusy =>
      refine fits_writingIf huntouched ?_
      have hwanted : m.selected inv config p.session.machine ≠ [] ∨ inv.bootstrap = true := by
        simpa [or_iff_not_imp_left] using hbusy
      refine ⟨⟨hconfig, rfl, hwanted⟩, ?_, ?_, ?_, Tracked.start ?_⟩ <;>
        cases inv.bootstrap <;> simp [Untouched]

lemma Probing.cleared {results : List Probed}
    (h : Probing m inv p config targets (results.map .done) acts)
    (hsuccess : (BootstrapReport.mk results).isSuccess) :
    Cleared m inv p config targets
      (acts ++ (if inv.bootstrap then [.wrote .verdict] else []) ++ [.wrote .fileList]) := by
  obtain ⟨havailable, hanswered⟩ := h.tracked.done hsuccess
  refine ⟨h.busy, ?_, hanswered.mono fun act hact => by simp [hact], ?_,
    fun hflag => by simp [hflag, h.announced hflag], by simp⟩
  · cases inv.bootstrap <;> simpa using havailable
  · cases inv.bootstrap <;> simpa using h.unrefused

lemma fits_assessed {results : List Probed}
    (h : Probing m inv p config targets (results.map .done) acts) :
    Fits m inv cores p acts (assessed inv config targets ⟨results⟩) := by
  unfold assessed
  split
  next hsuccess =>
    have huntouched : Untouched (acts ++ if inv.bootstrap then [.wrote .verdict] else []) := by
      cases inv.bootstrap with
      | false => simpa using h.untouched
      | true => exact h.untouched.snoc (by simp)
    exact fits_writingIf h.untouched (fits_listing huntouched fun _ => h.cleared hsuccess)
  next => exact fits_failed h.untouched.quiet _

/-- **What every step keeps.** -/
lemma Move.fits {phase phase' : Phase} {q r : Progress σ ω} {act? : Option Act}
    (hmove : Move m inv cores phase q act? phase' r) (h : Fits m inv cores p acts phase) :
    Fits m inv cores p (acts ++ act?.toList) phase' := by
  cases hmove with
  | write => exact h.2.2
  | refuse => exact fits_refused (h.2.1.refused h.1) _
  | probe hstep =>
    exact {
      busy := h.busy
      untouched := fun command hmem => h.untouched command
        (hstep.mem_of_mem hmem (by simp) (by simp))
      unrefused := fun part hmem => h.unrefused part (hstep.mem_of_mem hmem (by simp) (by simp))
      announced := fun hflag => by simp [h.announced hflag]
      tracked := hstep.tracked h.tracked }
  | assess =>
    rw [Option.toList_none, List.append_nil]
    exact fits_assessed h
  | engage => simpa using ⟨h.2, Workers.Sound.start _ _ _⟩
  | overload => simpa using fits_failed h.1.quiet _
  | @work _ _ _ _ _ _ _ command? hstep hstarted =>
    refine ⟨?_, hstep.sound h.2⟩
    cases command? with
    | none => simpa using h.1
    | some command => exact h.1.tool command
  | gather =>
    rw [Option.toList_none, List.append_nil]
    exact ⟨False.elim, h.1.quiet, h.1.quiet.wrote .results⟩
  | flush =>
    rw [Option.toList_none, List.append_nil]
    exact h
  | refuseFlush => simpa using fits_failed h _

/-! ### What a step shows -/

section Move

variable {phase phase' : Phase} {q r : Progress σ ω} {act? : Option Act}

lemma ProbeStep.started {host : Host σ} {env : Environment} {settings : ProbeSettings}
    {task task' : ProbeTask} {s s' : Session σ}
    (hstep : ProbeStep host env settings task s act? task' s') :
    s'.started = s.started ++ (act?.bind Act.command?).toList := by
  cases hstep <;> simp [Act.command?]

/-- The processes that a step starts are those that can be seen of it. -/
lemma Move.started (hmove : Move m inv cores phase q act? phase' r) :
    r.session.started = q.session.started ++ (act?.bind Act.command?).toList := by
  cases hmove with
  | probe hstep => exact hstep.started
  | @work _ _ _ _ _ _ _ command? hstep hstarted =>
    rw [hstarted]
    cases command? <;> rfl
  | _ => simp [Act.command?, Setting.engaged]

/-- What the work on the files starts is a planned linter on one of the files. -/
lemma command_of_work {plan : Plan} {permits : Nat} {pool pool' : Workers.Pool}
    {s s' : Session σ} {command? : Option Command}
    (hstep : Workers.Step m.host m.env plan permits (pool, s) (pool', s'))
    (hstarted : s'.started = s.started ++ command?.toList)
    (hsound : Workers.Sound plan permits targets pool) :
    ∀ command ∈ command?, ∃ target ∈ targets, ∃ planned ∈ plan.lintersFor target,
      command = plan.toolCommand m.env planned target := by
  rintro command rfl
  obtain ⟨command?', hstarted', htool⟩ := hstep.started hsound
  have heq := List.append_cancel_left (hstarted.symm.trans hstarted')
  exact htool command (Option.mem_toList.mp (heq ▸ List.mem_singleton_self command))

lemma Move.allowed (hmove : Move m inv cores phase q act? phase' r)
    (h : Fits m inv cores p acts phase) : ∀ act ∈ act?, Allowed m inv p acts act := by
  intro act hact
  cases hmove with
  | @probe config targets _ _ _ _ _ _ _ hstep =>
    cases hstep with
    | @launch linter program =>
      obtain rfl := Option.some.inj hact
      exact ⟨h.untouched, config, targets, h.busy, linter,
        h.tracked.enabled _ (List.mem_append_right _ List.mem_cons_self) linter rfl, program, rfl⟩
    | _ => cases hact <;> trivial
  | @work config targets report _ _ _ _ command? hstep hstarted =>
    obtain ⟨hcleared, hsound⟩ := h
    obtain ⟨command, hcommand, rfl⟩ := Option.map_eq_some_iff.mp hact
    obtain ⟨target, htarget, planned, hplanned, rfl⟩ :=
      command_of_work hstep hstarted hsound command hcommand
    obtain ⟨hmem, hincludes⟩ := Plan.mem_lintersFor.mp hplanned
    exact ⟨config, targets, hcleared.busy, hcleared.answered, hcleared.listed, hcleared.announced,
      target, htarget, planned, Plan.linter_mem_of_mem hmem, hincludes, rfl⟩
  | _ => cases hact <;> trivial

end Move

/-! ### What a course shows -/

section Moves

variable {phase : Phase} {q : Progress σ ω}

lemma Moves.fits (h : Moves m inv cores (start m inv p).1 (start m inv p).2 acts phase q) :
    Fits m inv cores p acts phase := by
  induction h with
  | refl => exact fits_start
  | tail _ hmove ih => exact hmove.fits ih

/-- What holds of an act and those before it at every step holds at each act of a course. -/
lemma Moves.forall_act {P : List Act → Act → Prop} {first phase : Phase} {q₀ q : Progress σ ω}
    (h : Moves m inv cores first q₀ acts phase q)
    (hstep : ∀ {acts middle q act last r}, Moves m inv cores first q₀ acts middle q →
      Move m inv cores middle q (some act) last r → P acts act)
    {before after : List Act} {act : Act} (hacts : acts = before ++ act :: after) :
    P before act := by
  induction h generalizing after with
  | refl => simp at hacts
  | @tail acts act? _ _ _ _ hmoves hmove ih =>
    cases act? with
    | none => exact ih (by simpa using hacts)
    | some last =>
      -- the act is the last one, or it was there before the last step
      rcases List.eq_nil_or_concat after with rfl | ⟨after, x, rfl⟩
      · obtain ⟨rfl, hlast⟩ := List.append_inj' hacts rfl
        obtain rfl := List.singleton_inj.mp hlast
        exact hstep hmoves hmove
      · rw [List.concat_eq_append, ← List.cons_append, ← List.append_assoc] at hacts
        exact ih (List.append_inj' hacts rfl).1

lemma Moves.allowed (h : Moves m inv cores (start m inv p).1 (start m inv p).2 acts phase q)
    {before after : List Act} {act : Act} (hacts : acts = before ++ act :: after) :
    Allowed m inv p before act :=
  h.forall_act (fun hmoves hmove => hmove.allowed hmoves.fits _ rfl) hacts

lemma started_start : (start m inv p).2.session.started = p.session.started := by
  unfold start
  split <;> simp [Setting.searched, Setting.prepared]

lemma Moves.started (h : Moves m inv cores (start m inv p).1 (start m inv p).2 acts phase q) :
    q.session.started = p.session.started ++ acts.filterMap Act.command? := by
  induction h with
  | refl => simpa using started_start
  | @tail _ act? _ _ _ _ _ hmove ih =>
    rw [hmove.started, ih, List.append_assoc, List.filterMap_append]
    cases act? with
    | none => simp
    | some act => cases h : act.command? <;> simp [h]

lemma Allowed.busy {act : Act} (h : Allowed m inv p acts act) {command : Command}
    (hcommand : act.command? = some command) : ∃ config targets, Busy m inv p config targets := by
  cases act with
  | probe =>
    obtain ⟨-, config, targets, hbusy, -⟩ := h
    exact ⟨config, targets, hbusy⟩
  | tool =>
    obtain ⟨config, targets, hbusy, -⟩ := h
    exact ⟨config, targets, hbusy⟩
  | _ => cases hcommand

/-- Where there is nothing to do no process is started. -/
lemma Moves.idle (h : Moves m inv cores (start m inv p).1 (start m inv p).2 acts phase q)
    (hidle : ∀ config targets, ¬ Busy m inv p config targets) :
    acts.filterMap Act.command? = [] := by
  rw [List.filterMap_eq_nil_iff]
  intro act hact
  obtain ⟨before, after, hacts⟩ := List.append_of_mem hact
  by_contra hcommand
  obtain ⟨command, hcommand⟩ := Option.ne_none_iff_exists'.mp hcommand
  obtain ⟨config, targets, hbusy⟩ := (h.allowed hacts).busy hcommand
  exact hidle config targets hbusy

/-- Once a probe has come to a bad end or an early part is refused, there is no tool at all. -/
lemma Fits.quiet (h : Fits m inv cores p acts phase) : Quiet acts := by
  cases phase with
  | writing => exact h.2.1
  | probing => exact h.untouched.quiet
  | engaging => exact h.1.quiet
  | linting => exact h.1.quiet
  | flushing => exact h
  | ended => exact h

end Moves

/-- **No process before its time.** A run is one of its courses, and in each of them: the processes
that are started are those that can be seen; there is none if the configuration is not accepted, and
none if there are no files and no bootstrap is asked for; every probe and every tool has had before
it what it needs; and if the probes of any linter come to a bad end, or a part before the results is
refused, then no tool is started on any file. -/
theorem gating (m : Setting σ ω) (inv : Invocation) (p : Progress σ ω) {cores : Nat}
    (hjobs : inv.jobs? ≠ some 0) (hcores : 0 < cores) :
    (∃ acts, Moves m inv cores (start m inv p).1 (start m inv p).2 acts (.ended (m.run inv p).1)
      (m.run inv p).2) ∧
    ∀ acts phase q, Moves m inv cores (start m inv p).1 (start m inv p).2 acts phase q →
      q.session.started = p.session.started ++ acts.filterMap Act.command? ∧
      (∀ e, m.configured inv p.session.machine = .error e → acts.filterMap Act.command? = []) ∧
      (∀ config, m.configured inv p.session.machine = .ok config →
        m.selected inv config p.session.machine = [] → inv.bootstrap = false →
        acts.filterMap Act.command? = []) ∧
      (∀ before act after, acts = before ++ act :: after → Allowed m inv p before act) ∧
      ((∃ result, .probed result ∈ acts ∧ ¬ result.outcome.isAvailable) ∨
        (∃ part : Part, part.IsEarly ∧ .refused part ∈ acts) → Untouched acts) := by
  refine ⟨leads_run hjobs hcores p, fun acts phase q hmoves => ⟨hmoves.started, fun e he => ?_,
    fun config hconfig hnone hflag => ?_, fun before act after => hmoves.allowed,
    fun hbad command hmem => ?_⟩⟩
  · refine hmoves.idle fun config targets hbusy => ?_
    simpa [he] using hbusy.configured
  · refine hmoves.idle fun config' targets hbusy => ?_
    obtain rfl : config = config' := Except.ok.inj (hconfig.symm.trans hbusy.configured)
    simpa [← hbusy.selected, hnone, hflag] using hbusy.wanted
  · obtain ⟨havailable, hunrefused⟩ := hmoves.fits.quiet command hmem
    rcases hbad with ⟨result, hresult, hunavailable⟩ | ⟨part, hpart, hrefused⟩
    · exact hunavailable (havailable result hresult)
    · exact hunrefused part hpart hrefused

/-- On a shelf with one file a process is a probe, or a tool that the file is handed to. -/
lemma command?_cases_single {acts : List Act} {act : Act} {command : Command}
    (h : Allowed Shelf.setting Shelf.singleInvocation ⟨.begin Shelf.single, ""⟩ acts act)
    (hcommand : act.command? = some command) :
    act = .probe command ∧ command.args.getLast? ≠ some "a.py" ∨
      act = .tool command ∧ command.args.getLast? = some "a.py" := by
  obtain ⟨config, hconfig, -, -, hselected, -⟩ := Setting.exists_config_single
  cases act with
  | probe c =>
    obtain rfl := Option.some.inj hcommand
    obtain ⟨-, -, -, -, r, -, program, rfl⟩ := h
    have hprobe : ∀ linter : Linter, linter.spec.probeArgs.getLast? ≠ some "a.py" := by
      intro linter
      cases linter <;> decide
    exact .inl ⟨rfl, hprobe r.linter⟩
  | tool c =>
    obtain rfl := Option.some.inj hcommand
    obtain ⟨config', targets, hbusy, -, -, -, target, htarget, planned, -, -, rfl⟩ := h
    obtain rfl : config = config' := Except.ok.inj (hconfig.symm.trans hbusy.configured)
    rw [← hbusy.selected, hselected] at htarget
    obtain rfl := List.mem_singleton.mp htarget
    exact .inr ⟨rfl, List.getLast?_concat ..⟩
  | _ => cases hcommand

/-- On a shelf with a manifest that asks for no workers no process is ever started. On another one
the only tool is probed, and then started on the only file. -/
theorem gating_shelf :
    (let p : Progress Shelf String :=
        ⟨.begin [("pyproject.toml", "[tool.lint]\njobs = 0\n"), ("a.py", "x = 1")], ""⟩
      let inv : Invocation := ⟨Shelf.directory, [⟨"a.py"⟩], true, none, none⟩
      (Shelf.setting.run inv p).2.session.started = [] ∧
        ∀ acts phase q, Moves Shelf.setting inv 4 (start Shelf.setting inv p).1
          (start Shelf.setting inv p).2 acts phase q → q.session.started = []) ∧
    let p : Progress Shelf String := ⟨.begin Shelf.single, ""⟩
    let inv := Shelf.singleInvocation
    ∃ before between after probe tool,
      Moves Shelf.setting inv 4 (start Shelf.setting inv p).1 (start Shelf.setting inv p).2
        (before ++ .probe probe :: (between ++ .tool tool :: after))
        (.ended (Shelf.setting.run inv p).1) (Shelf.setting.run inv p).2 ∧
      probe.args = ["--version"] ∧ Allowed Shelf.setting inv p before (.probe probe) ∧
      tool.args = ["a.py"] ∧
        Allowed Shelf.setting inv p (before ++ .probe probe :: between) (.tool tool) := by
  constructor
  · intro p inv
    have hcheck : (match Shelf.setting.configured inv p.session.machine with
        | .ok _ => false
        | .error _ => true) = true := by decide +kernel
    obtain ⟨⟨acts, hrun⟩, hlaw⟩ := gating Shelf.setting inv p (by decide) (by decide : 0 < 4)
    have hstarted : ∀ acts phase q, Moves Shelf.setting inv 4 (start Shelf.setting inv p).1
        (start Shelf.setting inv p).2 acts phase q → q.session.started = [] := by
      intro acts phase q hmoves
      obtain ⟨hstarted, herror, -⟩ := hlaw acts phase q hmoves
      split at hcheck
      next => cases hcheck
      next e he => rw [hstarted, herror e he]; rfl
    exact ⟨hstarted _ _ _ hrun, hstarted⟩
  · intro p inv
    have hargs : (Shelf.setting.run inv p).2.session.started.map (·.args) =
        [["--version"], ["a.py"]] :=
      Setting.started_of_single Writer.reliable_collect Writer.lawful_collect
        ⟨⟨"a.py"⟩, ⟨"/shelf/a.py"⟩⟩ (exists_ok_of_check (by decide +kernel))
    obtain ⟨⟨acts, hrun⟩, hlaw⟩ := gating Shelf.setting inv p (by decide) (by decide : 0 < 4)
    obtain ⟨hstarted, -, -, hallowed, -⟩ := hlaw _ _ _ hrun
    rw [hstarted] at hargs
    obtain ⟨probe, _, hcommands, hprobe, hargs⟩ := List.map_eq_cons_iff.mp hargs
    obtain ⟨tool, rfl, htool⟩ := List.map_eq_singleton_iff.mp hargs
    obtain ⟨before, act, rest, rfl, -, hact, hrest⟩ := List.filterMap_eq_cons_iff.mp hcommands
    obtain ⟨between, act', after, rfl, -, hact', -⟩ := List.filterMap_eq_cons_iff.mp hrest
    have hfirst := hallowed before act _ rfl
    have hsecond := hallowed (before ++ act :: between) act' after (by simp)
    obtain ⟨rfl, -⟩ | ⟨-, hlast⟩ := command?_cases_single hfirst hact
    · obtain ⟨-, hother⟩ | ⟨rfl, -⟩ := command?_cases_single hsecond hact'
      · simp [htool] at hother
      · exact ⟨before, between, after, probe, tool, hrun, hprobe, hfirst, htool, hsecond⟩
    · simp [hprobe] at hlast

end LintChain.Course

import LintChain.Proofs.Probes
import Mathlib.Data.List.Nodup

/-!
The bootstrap and the plan agree. The plan looks every enabled linter up in the report of the
bootstrap, and takes the first good result under its name, whatever the report is like. The report
that a run makes has one result for each enabled linter; so where all results are good the plan has
all enabled linters, and each is run by the program that was probed.
-/

namespace LintChain

/-- No two enabled linters are one. -/
lemma Config.eq_of_linter_eq {config : Config}
    (hlinters : config.linters.map (·.linter) = Linter.all) {r r' : ResolvedLinter}
    (hr : r ∈ config.enabledLinters) (hr' : r' ∈ config.enabledLinters)
    (h : r.linter = r'.linter) : r = r' := by
  have hnodup : (config.enabledLinters.map (·.linter)).Nodup :=
    (pairwise_enabledLinters hlinters).imp fun hlt heq => by simp [heq] at hlt
  exact List.inj_on_of_nodup_map hnodup hr hr' h

/-! ### The plan of any report -/

namespace BootstrapReport

/-- Whether the report has a good result for a linter. -/
def offers (report : BootstrapReport) (linter : Linter) : Bool :=
  report.results.any fun probed => probed.linter = linter && probed.outcome.isAvailable

/-- The first good result for a linter is the one with this program. -/
def FirstOffers (report : BootstrapReport) (linter : Linter) (program : Path) : Prop :=
  ∃ before probed after version, report.results = before ++ probed :: after ∧
    probed.linter = linter ∧ probed.outcome = .available program version ∧
    ∀ other ∈ before, other.linter = linter → ¬ other.outcome.isAvailable

end BootstrapReport

namespace Plan

/-- A plan has the enabled linters that a report offers, in canonical order, each with the program
of its first good result, and there is a warning for each other enabled one. -/
structure IsDrawn (config : Config) (report : BootstrapReport) (plan : Plan)
    (warnings : List Warning) : Prop where
  linters_eq : plan.linters.map (·.linter) =
    config.enabledLinters.filter fun r => report.offers r.linter
  ordered : (plan.linters.map (·.linter.linter)).Pairwise fun a b => a.position < b.position
  first : ∀ planned ∈ plan.linters, report.FirstOffers planned.linter.linter planned.program
  warnings_eq : warnings = (config.enabledLinters.filter fun r => !report.offers r.linter).map
    fun r => .notBootstrapped r.linter

variable {config : Config} {report : BootstrapReport} {linter : Linter} {program : Path}

lemma program?_eq_some (h : program? report linter = some program) :
    report.FirstOffers linter program := by
  obtain ⟨before, probed, after, hresults, hprobed, hbefore⟩ := List.findSome?_eq_some_iff.mp h
  split at hprobed
  next program' version houtcome =>
    split_ifs at hprobed with hlinter
    obtain rfl := Option.some.inj hprobed
    refine ⟨before, probed, after, version, hresults, hlinter, houtcome, fun other hother heq => ?_⟩
    have hnone := hbefore other hother
    cases houtcome' : other.outcome <;> simp_all [Outcome.isAvailable]
  next => cases hprobed

lemma isSome_program? : (program? report linter).isSome = report.offers linter := by
  rw [Bool.eq_iff_iff, program?, List.findSome?_isSome_iff, BootstrapReport.offers,
    List.any_eq_true]
  refine exists_congr fun probed => and_congr_right fun _ => ?_
  cases probed.outcome <;> simp [Outcome.isAvailable]

/-- **Any report** gives the plan that it is said to give. -/
lemma isDrawn_ofBootstrap (hlinters : config.linters.map (·.linter) = Linter.all)
    (report : BootstrapReport) (cwd : Path) :
    IsDrawn config report (ofBootstrap config cwd report).1 (ofBootstrap config cwd report).2 := by
  have heq : (ofBootstrap config cwd report).1.linters.map (·.linter) =
      config.enabledLinters.filter fun r => report.offers r.linter := by
    rw [ofBootstrap, List.map_filterMap, ← List.filterMap_eq_filter]
    refine List.filterMap_congr fun r _ => ?_
    simp only [Option.guard, ← isSome_program?, planned?]
    cases program? report r.linter <;> rfl
  refine ⟨heq, ?_, fun planned hplanned => ?_, ?_⟩
  · have hmap : ((ofBootstrap config cwd report).1.linters.map (·.linter)).map (·.linter) =
        (ofBootstrap config cwd report).1.linters.map (·.linter.linter) := List.map_map
    rw [← hmap, heq]
    exact (Config.pairwise_enabledLinters hlinters).sublist (List.filter_sublist.map _)
  · obtain ⟨r, -, hr⟩ := List.mem_filterMap.mp hplanned
    obtain ⟨program, hprogram, rfl⟩ := Option.map_eq_some_iff.mp hr
    exact program?_eq_some hprogram
  · simp only [ofBootstrap, ← isSome_program?, Option.not_isSome]

/-- A complete report of good results leaves no enabled linter out, and warns about none. -/
lemma ofBootstrap_of_isComplete (h : report.IsComplete config) (hsuccess : report.isSuccess)
    (cwd : Path) : (ofBootstrap config cwd report).1.linters.map (·.linter) =
        config.enabledLinters ∧ (ofBootstrap config cwd report).2 = [] := by
  have hanswers := BootstrapReport.answers_of_isSuccess h.linters_eq hsuccess
  refine ⟨map_linter_ofBootstrap hanswers, ?_⟩
  simp only [ofBootstrap, List.map_eq_nil_iff, List.filter_eq_nil_iff]
  intro r hr
  have hsome := program?_isSome (hanswers r hr)
  simpa [Option.isSome_iff_ne_none] using hsome

end Plan

/-! ### What the probes have shown -/

namespace Bootstrap

/-- The program that is available is the one that was probed. -/
lemma program_eq_of_judge {spec : Spec} {program program' : Path} {probe : Probe}
    {attempt : UInt32} {version : Option String}
    (h : (judge spec program probe attempt).1 = .available program' version) :
    program' = program := by
  unfold judge checkVersion at h
  split at h
  · split at h
    · cases h
      rfl
    · split at h
      · cases h
        rfl
      · split_ifs at h
        cases h
        rfl
  · split_ifs at h

end Bootstrap

namespace Course

variable {σ ω : Type} (m : Setting σ ω) (inv : Invocation) (cores : Nat) (p : Progress σ ω)
  (config : Config)

/-- The result of an enabled linter has been seen, and if it is good then a probe of its program
was started before. -/
def Seen (acts : List Act) (result : Probed) : Prop :=
  ∃ r ∈ config.enabledLinters, r.linter = result.linter ∧
    ∃ front back, acts = front ++ .probed result :: back ∧
      ∀ program version, result.outcome = .available program version →
        .probe (probeCommand m.env (Setting.probeSettings inv config) r program) ∈ front

/-- How far the probes of a linter have come can be seen. -/
def ProbeTask.IsSeen (acts : List Act) : ProbeTask → Prop
  | waiting r | ready r .. => r ∈ config.enabledLinters
  | running r program .. => r ∈ config.enabledLinters ∧
      .probe (probeCommand m.env (Setting.probeSettings inv config) r program) ∈ acts
  | done result => Seen m inv config acts result

/-- A report that lets a run go on. -/
structure Approved (acts : List Act) (report : BootstrapReport) : Prop where
  complete : report.IsComplete config
  success : report.isSuccess
  seen : ∀ result ∈ report.results, Seen m inv config acts result

/-- The phases before the files are about the enabled linters, and those after them have a report
that lets a run go on. -/
def Agrees (acts : List Act) : Phase → Prop
  | .writing _ _ next => Agrees acts next
  | .probing config' _ tasks => config' = config ∧
      tasks.map ProbeTask.name = config.enabledLinters.map (·.linter) ∧
      ∀ task ∈ tasks, task.IsSeen m inv config acts
  | .engaging config' _ report | .linting config' _ report _ =>
      config' = config ∧ Approved m inv config acts report
  | .flushing _ | .ended _ => True

/-- A tool that has been probed: it is an enabled linter on one of the files, by a program with
which the probes of the linter have come to a good end. -/
def IsProbed (acts : List Act) (command : Command) : Prop :=
  ∃ r ∈ config.enabledLinters, ∃ target ∈ m.selected inv config p.session.machine,
    command = ⟨command.program, r.args ++ [target.path.text], inv.cwd,
      (m.env.toolVariables r.linter).1, config.timeout?⟩ ∧
    ∃ result version front back, acts = front ++ .probed result :: back ∧
      result.linter = r.linter ∧ result.outcome = .available command.program version ∧
      .probe (probeCommand m.env (Setting.probeSettings inv config) r command.program) ∈ front

variable {m inv cores p config} {acts : List Act}

section Seen

variable {result : Probed} {task task' : ProbeTask} {report : BootstrapReport}

lemma Seen.mono (h : Seen m inv config acts result) (more : List Act) :
    Seen m inv config (acts ++ more) result := by
  obtain ⟨r, hr, hlinter, front, back, rfl, hprobe⟩ := h
  exact ⟨r, hr, hlinter, front, back ++ more, by simp, hprobe⟩

lemma ProbeTask.IsSeen.mono (h : task.IsSeen m inv config acts) (more : List Act) :
    task.IsSeen m inv config (acts ++ more) := by
  cases task with
  | waiting | ready => exact h
  | running => exact ⟨h.1, List.mem_append_left _ h.2⟩
  | done => exact Seen.mono h more

lemma Approved.mono (h : Approved m inv config acts report) (more : List Act) :
    Approved m inv config (acts ++ more) report :=
  ⟨h.complete, h.success, fun result hresult => (h.seen result hresult).mono more⟩

lemma Agrees.mono {phase : Phase} (h : Agrees m inv config acts phase) (more : List Act) :
    Agrees m inv config (acts ++ more) phase := by
  induction phase with
  | writing _ _ _ ih => exact ih h
  | probing => exact ⟨h.1, h.2.1, fun task htask => (h.2.2 task htask).mono more⟩
  | engaging => exact ⟨h.1, h.2.mono more⟩
  | linting => exact ⟨h.1, h.2.mono more⟩
  | _ => trivial

/-- A step of the probes shows what is to be seen of it. -/
lemma ProbeStep.isSeen {s s' : Session σ} {act? : Option Act}
    (hstep : ProbeStep m.host m.env (Setting.probeSettings inv config) task s act? task' s')
    (h : task.IsSeen m inv config acts) : task'.IsSeen m inv config (acts ++ act?.toList) := by
  cases hstep with
  | @missing linter => exact ⟨linter, h, rfl, acts, [], rfl, by simp⟩
  | found => exact h
  | launch => exact ⟨h, by simp⟩
  | retry => exact h.1
  | @settle linter program _ _ _ _ =>
    refine ⟨linter, h.1, rfl, acts, [], rfl, fun program' version houtcome => ?_⟩
    obtain rfl := Bootstrap.program_eq_of_judge houtcome
    exact h.2

end Seen

/-! ### What a step keeps -/

lemma agrees_failed (e : LintError) : Agrees m inv config acts (failed e) := by
  cases e <;> trivial

lemma agrees_refused (part : Part) (e : WriteError) :
    Agrees m inv config acts (refused part e) := by
  cases part with
  | closing => trivial
  | _ => exact agrees_failed (.write e)

lemma agrees_writingIf {wanted : Bool} {part : Part} {lines : List Line} {next : Phase}
    (h : Agrees m inv config acts next) :
    Agrees m inv config acts (writingIf wanted part lines next) := by
  cases wanted <;> exact h

lemma agrees_listing {targets : List Target} {report : BootstrapReport}
    (h : targets ≠ [] → Approved m inv config acts report) :
    Agrees m inv config acts (listing config targets report) := by
  cases targets with
  | nil => trivial
  | cons target rest => exact ⟨rfl, h (List.cons_ne_nil _ _)⟩

lemma agrees_start (hconfig : m.configured inv p.session.machine = .ok config) :
    Agrees m inv config [] (start m inv p).1 := by
  simp only [start, hconfig, opening]
  split
  next hidle =>
    have hnone := List.isEmpty_iff.mp (Bool.and_eq_true_iff.mp hidle).1
    exact agrees_listing fun hsome => absurd hnone hsome
  next =>
    refine agrees_writingIf ⟨rfl, by simp [Function.comp_def, ProbeTask.name], fun task htask => ?_⟩
    obtain ⟨r, hr, rfl⟩ := List.mem_map.mp htask
    exact hr

lemma agrees_assessed (hlinters : config.linters.map (·.linter) = Linter.all)
    {targets : List Target} {results : List Probed}
    (h : Agrees m inv config acts (.probing config targets (results.map .done))) :
    Agrees m inv config acts (assessed inv config targets ⟨results⟩) := by
  unfold assessed
  split
  next hsuccess =>
    have hnames : results.map (·.linter) = config.enabledLinters.map (·.linter) := by
      simpa [Function.comp_def, ProbeTask.name] using h.2.1
    refine agrees_writingIf (agrees_listing fun _ =>
      ⟨.of_linters_eq hlinters hnames, hsuccess, fun result hresult => ?_⟩)
    exact h.2.2 (.done result) (List.mem_map_of_mem hresult)
  next => exact agrees_failed _

/-- **What every step keeps.** -/
lemma Move.agrees (hlinters : config.linters.map (·.linter) = Linter.all) {phase phase' : Phase}
    {q r : Progress σ ω} {act? : Option Act} (hmove : Move m inv cores phase q act? phase' r)
    (h : Agrees m inv config acts phase) :
    Agrees m inv config (acts ++ act?.toList) phase' := by
  cases hmove with
  | write => exact Agrees.mono h _
  | refuse => exact agrees_refused _ _
  | probe hstep =>
    obtain ⟨rfl, hnames, hseen⟩ := h
    refine ⟨rfl, by simpa [hstep.name_eq] using hnames, ?_⟩
    exact Workers.forall_replace hseen (fun _ _ h => h.mono _) hstep.isSeen
  | assess =>
    obtain rfl := h.1
    exact Agrees.mono (agrees_assessed hlinters h) _
  | engage => exact ⟨h.1, h.2.mono _⟩
  | overload => exact agrees_failed _
  | work => exact ⟨h.1, h.2.mono _⟩
  | gather => trivial
  | flush => trivial
  | refuseFlush => exact agrees_failed _

lemma Moves.agrees (hconfig : m.configured inv p.session.machine = .ok config) {phase : Phase}
    {q : Progress σ ω} (h : Moves m inv cores (start m inv p).1 (start m inv p).2 acts phase q) :
    Agrees m inv config acts phase := by
  induction h with
  | refl => exact agrees_start hconfig
  | tail _ hmove ih => exact hmove.agrees (Setting.linters_of_configured hconfig) ih

/-- A tool is started by a program that was probed. -/
lemma Move.isProbed (hconfig : m.configured inv p.session.machine = .ok config)
    {phase phase' : Phase} {q r : Progress σ ω} {command : Command}
    (hmove : Move m inv cores phase q (some (.tool command)) phase' r)
    (hagrees : Agrees m inv config acts phase) (hfits : Fits m inv cores p acts phase) :
    IsProbed m inv p config acts command := by
  generalize hact : some (Act.tool command) = act? at hmove
  cases hmove with
  | probe hstep => cases hstep <;> cases hact
  | @work config' targets report _ _ _ _ command? hstep hstarted =>
    obtain ⟨rfl, happroved⟩ := hagrees
    obtain ⟨hcleared, hsound⟩ := hfits
    obtain ⟨_, hcommand, heq⟩ := Option.map_eq_some_iff.mp hact.symm
    obtain rfl := Act.tool.inj heq
    obtain ⟨target, htarget, planned, hplanned, rfl⟩ :=
      command_of_work hstep hstarted hsound _ hcommand
    have hmem := (Plan.mem_lintersFor.mp hplanned).1
    have hlinters := Setting.linters_of_configured hconfig
    obtain ⟨before, result, after, version, hresults, hlinter, houtcome, -⟩ :=
      (Plan.isDrawn_ofBootstrap hlinters report inv.cwd).first planned hmem
    have hresult : result ∈ report.results := by simp [hresults]
    obtain ⟨r, hr, hr', front, back, hacts, hprobe⟩ := happroved.seen result hresult
    obtain rfl : r = planned.linter :=
      Config.eq_of_linter_eq hlinters hr (Plan.linter_mem_of_mem hmem) (hr'.trans hlinter)
    refine ⟨planned.linter, hr, target, hcleared.busy.selected ▸ htarget, rfl, result, version,
      front, back, hacts, hlinter, houtcome, hprobe _ _ houtcome⟩
  | _ => cases hact

/-- **Bootstrap and plan agree.** Under an accepted configuration the probes come to one result for
each enabled linter, in canonical order, wherever they are run and in whatever order they go on.
From any report at all the plan takes the enabled linters that have a good result under their names,
each with the program of the first, and warns about each other one. So whenever a course of a run
comes to the work on the files, the plan has every enabled linter and nothing has been warned about,
and what is run on the files is the program with which the probes of the linter have come to a good
end. -/
theorem bootstrap_and_plan_agree (hconfig : m.configured inv p.session.machine = .ok config) :
    (∀ (host : Host σ) env settings s,
      (Bootstrap.run host env settings config s).1.IsComplete config ∧
      ∀ scene, ProbesSteps host env settings (config.enabledLinters.map .waiting, s) scene →
        Concludes config host env settings scene) ∧
    (∀ report cwd, Plan.IsDrawn config report (Plan.ofBootstrap config cwd report).1
      (Plan.ofBootstrap config cwd report).2) ∧
    ∀ acts phase q, Moves m inv cores (start m inv p).1 (start m inv p).2 acts phase q →
      (∀ config' targets report, phase = .engaging config' targets report ∨
          (∃ pool, phase = .linting config' targets report pool) →
        config' = config ∧ report.IsComplete config ∧
        (Setting.plan inv config report).linters.map (·.linter) = config.enabledLinters ∧
        ∀ s : Session σ, (Setting.engaged inv config report s).warnings = s.warnings) ∧
      ∀ before command after, acts = before ++ .tool command :: after →
        IsProbed m inv p config before command := by
  have hlinters := Setting.linters_of_configured hconfig
  refine ⟨fun host env settings s => ⟨?_, fun scene => concludes_of_probesSteps hlinters⟩,
    Plan.isDrawn_ofBootstrap hlinters, fun acts phase q hmoves =>
      ⟨fun config' targets report hphase => ?_, fun before command after hacts => ?_⟩⟩
  · exact .of_linters_eq hlinters (Bootstrap.map_linter_probeAll _)
  · have hagrees := hmoves.agrees hconfig
    have happroved : config' = config ∧ Approved m inv config acts report := by
      rcases hphase with rfl | ⟨pool, rfl⟩ <;> exact hagrees
    obtain ⟨rfl, hcomplete, hsuccess, -⟩ := happroved
    obtain ⟨hplan, hwarnings⟩ := Plan.ofBootstrap_of_isComplete hcomplete hsuccess inv.cwd
    exact ⟨rfl, hcomplete, hplan, fun s => by simp [Setting.engaged, hwarnings]⟩
  · refine hmoves.forall_act (P := fun before act => ∀ command, act = .tool command →
      IsProbed m inv p config before command) (fun hmoves hmove => ?_) hacts command rfl
    rintro command rfl
    exact hmove.isProbed hconfig (Moves.agrees hconfig hmoves) hmoves.fits

/-- On a shelf with three linters enabled the probes come to one result for each, and all that is
run on the files has been probed. A report out of order, with a disabled linter, a bad result and a
linter that comes twice gives a plan of two linters and one warning. -/
theorem bootstrap_and_plan_agree_shelf :
    let p : Progress Shelf String := ⟨.begin [("pyproject.toml", "[tool.lint]\n" ++
      "isort.run = false\nprospector.run = false\npyright.run = false\n"), ("a.py", "x = 1")], ""⟩
    let inv : Invocation := ⟨Shelf.directory, [⟨"a.py"⟩], true, none, none⟩
    let report : BootstrapReport := ⟨[⟨.flake8, .available ⟨"/opt/flake8"⟩ none, "", ""⟩,
      ⟨.black, .broken (.exited 1), "", ""⟩, ⟨.isort, .available ⟨"/bin/isort"⟩ none, "", ""⟩,
      ⟨.pyupgrade, .available ⟨"/bin/pyupgrade"⟩ none, "", ""⟩,
      ⟨.flake8, .available ⟨"/bin/flake8"⟩ none, "", ""⟩]⟩
    ∃ config, Shelf.setting.configured inv p.session.machine = .ok config ∧
      (Bootstrap.run Shelf.host Shelf.setting.env (Setting.probeSettings inv config) config
        p.session).1.IsComplete config ∧
      Plan.IsDrawn config report (Plan.ofBootstrap config inv.cwd report).1
        [.notBootstrapped .black] ∧
      (Plan.ofBootstrap config inv.cwd report).1.linters.map
          (fun planned => (planned.linter.linter, planned.program)) =
        [(.pyupgrade, ⟨"/bin/pyupgrade"⟩), (.flake8, ⟨"/opt/flake8"⟩)] ∧
      ∀ acts phase q, Moves Shelf.setting inv 4 (start Shelf.setting inv p).1
        (start Shelf.setting inv p).2 acts phase q →
        ∀ before command after, acts = before ++ .tool command :: after →
          IsProbed Shelf.setting inv p config before command := by
  intro p inv report
  obtain ⟨config, hconfig, hcheck⟩ : ∃ config,
      Shelf.setting.configured inv p.session.machine = .ok config ∧
        (decide ((Plan.ofBootstrap config inv.cwd report).2 = [.notBootstrapped .black]) &&
          decide ((Plan.ofBootstrap config inv.cwd report).1.linters.map
              (fun planned => (planned.linter.linter, planned.program)) =
            [(.pyupgrade, ⟨"/bin/pyupgrade"⟩), (.flake8, ⟨"/opt/flake8"⟩)])) = true :=
    exists_ok_of_check (by decide +kernel)
  simp only [Bool.and_eq_true, decide_eq_true_eq] at hcheck
  obtain ⟨hprobes, hdrawn, hcourses⟩ :=
    @bootstrap_and_plan_agree _ _ Shelf.setting inv 4 p config hconfig
  exact ⟨config, hconfig, (hprobes _ _ _ _).1, hcheck.1 ▸ hdrawn report inv.cwd, hcheck.2,
    fun acts phase q hmoves => (hcourses acts phase q hmoves).2⟩

end Course

end LintChain

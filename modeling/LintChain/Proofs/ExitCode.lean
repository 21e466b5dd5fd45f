import LintChain.Proofs.Looks
import LintChain.Proofs.Severity

/-!
The exit code. Every layer keeps a result that is no pass: the worst status of a file, the report of
the run, and the code. So the code is 0 exactly when nothing went wrong on the way and every linter
passed on every file.
-/

namespace LintChain

/-! ### From results to the code -/

namespace RunReport

/-- The report with other flags on which results go with a changed file. -/
def withChanged (run : RunReport) (flag : Path → ToolResult → Bool) : RunReport :=
  { run with files := run.files.map fun file =>
      { file with results := file.results.map fun result =>
          { result with changed := flag file.path result } } }

lemma exitCode_withChanged (run : RunReport) (flag : Path → ToolResult → Bool) :
    (run.withChanged flag).exitCode = run.exitCode := by
  simp [exitCode, isSuccess, withChanged, FileReport.status, Function.comp_def]

end RunReport

/-! ### From the machine to the code -/

namespace Setting

variable {σ ω : Type} (m : Setting σ ω) (inv : Invocation)

/-- Nothing is wrong with a run under a configuration: there is nothing to do, or nothing but the
probes and they are good, or the linters pass on every file. -/
def Clean (config : Config) (s : Session σ) : Prop :=
  (m.selected inv config s.machine = [] ∧ inv.bootstrap = false) ∨
  (m.selected inv config s.machine = [] ∧ inv.bootstrap = true ∧ m.AllAvailable inv config s) ∨
  (m.selected inv config s.machine ≠ [] ∧ m.AllAvailable inv config s ∧
    ∀ file ∈ m.linted inv config s, ∀ result ∈ file.results, result.status = .pass)

variable {m inv} {p : Progress σ ω} {config : Config}

/-- Without enabled linters there is nothing to go wrong. -/
lemma clean_of_disabled (h : config.enabledLinters = []) (s : Session σ) :
    m.Clean inv config s := by
  have havailable : m.AllAvailable inv config s := by
    simp [AllAvailable, bootstrapped, probed, Bootstrap.run, Bootstrap.probeAll, h]
  have hresults : ∀ file ∈ m.linted inv config s, file.results = [] := by
    intro file hfile
    have hpair := List.mem_map_of_mem
      (f := fun file : FileReport => (file.path, file.results.map (·.linter))) hfile
    rw [linted, Plan.map_lintFiles] at hpair
    obtain ⟨target, -, hpair⟩ := List.mem_map.mp hpair
    simpa [Plan.lintersFor, plan, Plan.ofBootstrap, h] using congrArg Prod.snd hpair
  by_cases hnone : m.selected inv config s.machine = []
  · cases hflag : inv.bootstrap with
    | false => exact .inl ⟨hnone, hflag⟩
    | true => exact .inr (.inl ⟨hnone, hflag, havailable⟩)
  · exact .inr (.inr ⟨hnone, havailable, fun file hfile => by simp [hresults file hfile]⟩)

/-- The code that a run comes to when no write is refused. -/
lemma run_of_reliable (h : m.writer.Reliable) : (m.run inv p).1 =
    match m.finding inv p.session with
    | .ok run => .ok run.exitCode
    | .error (.workers e) => .error (.workers e)
    | .error _ => .ok 1 := by
  rw [run_apply, ← lint_of_reliable h]
  rcases m.lint inv p with ⟨e | run, q⟩
  · have hclosing := h.writeLines (closingLines e) q.out
    cases e with
    | workers e => rfl
    | _ =>
      simp only [conclude, Stage.bind_eq, writeLines_apply, hclosing, Except.mapError,
        Stage.pure_apply]
  · rfl

section Reliable

variable (hwriter : m.writer.Reliable)

include hwriter

lemma run_eq_zero_iff (hconfig : m.configured inv p.session.machine = .ok config)
    (hjobs : Plan.Countable config.jobs?) :
    (m.run inv p).1 = .ok 0 ↔ m.Clean inv config p.session := by
  rw [run_of_reliable hwriter]
  unfold Clean
  by_cases hidle : m.selected inv config p.session.machine = [] ∧ inv.bootstrap = false
  · rw [finding_of_idle hconfig hidle.1 hidle.2]
    simp [hidle, RunReport.exitCode_eq_zero_iff, RunReport.empty]
  · have hbusy : m.selected inv config p.session.machine ≠ [] ∨ inv.bootstrap = true := by
      rwa [not_and_or, Bool.not_eq_false] at hidle
    by_cases havailable : m.AllAvailable inv config p.session
    · rw [finding_of_available hconfig hbusy hjobs havailable]
      by_cases hnone : m.selected inv config p.session.machine = []
      · have hlinted : m.linted inv config p.session = [] := by simp [linted, hnone, Plan.lintFiles]
        simp_all [RunReport.exitCode_eq_zero_iff]
      · simp [hnone, havailable, RunReport.exitCode_eq_zero_iff]
    · rw [finding_of_unavailable hconfig hbusy havailable]
      simp [hidle, havailable]

lemma run_eq_one_of_error {e : ConfigError}
    (hconfig : m.configured inv p.session.machine = .error e) : (m.run inv p).1 = .ok 1 := by
  rw [run_of_reliable hwriter, finding, hconfig]

lemma run_eq_zero_or_one (hjobs : ∀ config, m.configured inv p.session.machine = .ok config →
    Plan.Countable config.jobs?) : (m.run inv p).1 = .ok 0 ∨ (m.run inv p).1 = .ok 1 := by
  rw [run_of_reliable hwriter]
  cases hfinding : m.finding inv p.session with
  | ok run => simpa using run.exitCode_eq_zero_or_one
  | error e =>
    cases e with
    | workers e =>
      -- the chain is asked for a number of workers that can be counted
      unfold finding at hfinding
      split at hfinding
      · cases hfinding
      next config hconfig =>
        simp only [executed_of_countable (hjobs config hconfig), Except.mapError,
          Except.map] at hfinding
        split_ifs at hfinding; cases hfinding
    | _ => exact .inr rfl

end Reliable

/-- **The exit code.** With a writer that refuses nothing, a run ends with code 0 exactly when its
configuration is accepted and nothing is wrong under it, and with code 1 otherwise. Once there are
files and all tools can be used, the results that decide are those of the report. Which results go
with a changed file makes no difference, and without enabled linters the code is 0. -/
theorem exit_code (hwriter : m.writer.Reliable)
    (hjobs : ∀ config, m.configured inv p.session.machine = .ok config →
      Plan.Countable config.jobs?) :
    ((m.run inv p).1 = .ok 0 ↔ ∃ config, m.configured inv p.session.machine = .ok config ∧
      m.Clean inv config p.session) ∧
    ((m.run inv p).1 = .ok 0 ∨ (m.run inv p).1 = .ok 1) ∧
    (∀ config, m.configured inv p.session.machine = .ok config →
      m.selected inv config p.session.machine ≠ [] → m.AllAvailable inv config p.session →
      (m.lint inv p).1 = .ok ⟨(m.bootstrapped inv config p.session).1,
        m.linted inv config p.session⟩) ∧
    (∀ (report : RunReport) (flag : Path → ToolResult → Bool),
      (report.withChanged flag).exitCode = report.exitCode) ∧
    ∀ config, m.configured inv p.session.machine = .ok config → config.enabledLinters = [] →
      (m.run inv p).1 = .ok 0 := by
  refine ⟨⟨fun hzero => ?_, ?_⟩, run_eq_zero_or_one hwriter hjobs, ?_,
    RunReport.exitCode_withChanged, ?_⟩
  · cases hconfig : m.configured inv p.session.machine with
    | error e =>
      rw [run_eq_one_of_error hwriter hconfig] at hzero
      simp at hzero
    | ok config =>
      exact ⟨config, rfl, (run_eq_zero_iff hwriter hconfig (hjobs config hconfig)).mp hzero⟩
  · rintro ⟨config, hconfig, hclean⟩
    exact (run_eq_zero_iff hwriter hconfig (hjobs config hconfig)).mpr hclean
  · intro config hconfig hsome havailable
    rw [lint_of_reliable hwriter]
    exact finding_of_available hconfig (.inl hsome) (hjobs config hconfig) havailable
  · intro config hconfig hnone
    exact (run_eq_zero_iff hwriter hconfig (hjobs config hconfig)).mpr (clean_of_disabled hnone _)

/-- Where no number of workers is asked for, none is too large. -/
lemma countable_of_configured {state : σ} (hconfig : m.configured inv state = .ok config)
    (hjobs : config.jobs? = none) :
    ∀ config', m.configured inv state = .ok config' → Plan.Countable config'.jobs? := by
  intro config' hconfig'
  obtain rfl : config = config' := Except.ok.inj (hconfig.symm.trans hconfig')
  exact hjobs ▸ Plan.countable_none

/-- A tool passes on the file of a shelf. -/
lemma exists_config_single :
    let inv := Shelf.singleInvocation
    let s := Session.begin Shelf.single
    ∃ config, Shelf.setting.configured inv s.machine = .ok config ∧ config.jobs? = none ∧
      Shelf.setting.AllAvailable inv config s ∧
      Shelf.setting.selected inv config s.machine = [⟨⟨"a.py"⟩, ⟨"/shelf/a.py"⟩⟩] ∧
      (Shelf.setting.linted inv config s).map (fun file =>
          (file.path, file.results.map fun result => (result.linter, result.status))) =
        [(⟨"a.py"⟩, [(.flake8, .pass)])] ∧
      Shelf.setting.Clean inv config s := by
  intro inv s
  let target : Target := ⟨⟨"a.py"⟩, ⟨"/shelf/a.py"⟩⟩
  obtain ⟨config, hconfig, hcheck⟩ : ∃ config, Shelf.setting.configured inv s.machine = .ok config ∧
      (config.jobs?.isNone && (Shelf.setting.bootstrapped inv config s).1.isSuccess &&
        decide (Shelf.setting.FindsOnly inv config s.machine target) &&
        (((plan inv config (Shelf.setting.bootstrapped inv config s).1).lintFiles
          Shelf.setting.host Shelf.setting.env [target]
          (Shelf.setting.ready inv config s)).1.map fun file =>
            (file.path, file.results.map fun result => (result.linter, result.status))) =
          [(⟨"a.py"⟩, [(.flake8, .pass)])]) = true :=
    exists_ok_of_check (by decide +kernel)
  simp only [Bool.and_eq_true, decide_eq_true_eq, Option.isNone_iff_eq_none] at hcheck
  obtain ⟨⟨⟨hjobs, hsuccess⟩, hfound⟩, hlinted⟩ := hcheck
  have hselected : Shelf.setting.selected inv config s.machine = [target] := hfound.selected_eq
  have havailable := isSuccess_iff_allAvailable.mp hsuccess
  have hlinted' : (Shelf.setting.linted inv config s).map (fun file =>
      (file.path, file.results.map fun result => (result.linter, result.status))) =
        [(⟨"a.py"⟩, [(.flake8, .pass)])] := by
    rw [linted, hselected]
    exact hlinted
  refine ⟨config, hconfig, hjobs, havailable, hselected, hlinted',
    .inr (.inr ⟨by simp [hselected], havailable, ?_⟩)⟩
  obtain ⟨file, hfile, hresults⟩ := List.map_eq_singleton_iff.mp hlinted'
  obtain ⟨result, hresult, hstatus⟩ := List.map_eq_singleton_iff.mp (Prod.mk.inj hresults).2
  simpa [hfile, hresult] using (Prod.mk.inj hstatus).2

/-- All tools of a shelf can be used, and there is nothing to lint; and on a file of another one the
only tool passes. -/
theorem exit_code_shelf :
    (let s := Session.begin [("pyproject.toml", "[tool.lint]\n"), ("a.py", "x = 1")]
      let inv : Invocation := ⟨Shelf.directory, [], true, none, none⟩
      (Shelf.setting.run inv ⟨s, ""⟩).1 = .ok 0) ∧
    let p : Progress Shelf String := ⟨.begin Shelf.single, ""⟩
    ∃ run : RunReport, (Shelf.setting.lint Shelf.singleInvocation p).1 = .ok run ∧
      (run.files.map fun file =>
          (file.path, file.results.map fun result => (result.linter, result.status))) =
        [(⟨"a.py"⟩, [(.flake8, .pass)])] ∧
      (Shelf.setting.run Shelf.singleInvocation p).1 = .ok 0 := by
  constructor
  · intro s inv
    obtain ⟨config, hconfig, hcheck⟩ : ∃ config,
        Shelf.setting.configured inv s.machine = .ok config ∧
        (config.jobs?.isNone && (Shelf.setting.bootstrapped inv config s).1.isSuccess) = true :=
      exists_ok_of_check (by decide +kernel)
    simp only [Bool.and_eq_true, Option.isNone_iff_eq_none] at hcheck
    obtain ⟨hjobs, hsuccess⟩ := hcheck
    have hnone : Shelf.setting.selected inv config s.machine = [] := by
      simp [selected, Discovery.discover, Discovery.select, keepFirst, inv]
    have hlaw := exit_code (p := ⟨s, ""⟩) Writer.reliable_collect
      (countable_of_configured hconfig hjobs)
    exact hlaw.1.mpr
      ⟨config, hconfig, .inr (.inl ⟨hnone, rfl, isSuccess_iff_allAvailable.mp hsuccess⟩)⟩
  · intro p
    obtain ⟨config, hconfig, hjobs, havailable, hselected, hlinted, hclean⟩ := exists_config_single
    have hsome : Shelf.setting.selected Shelf.singleInvocation config p.session.machine ≠ [] :=
      hselected ▸ List.cons_ne_nil _ _
    obtain ⟨hzero, -, hreport, -⟩ := exit_code (p := p) Writer.reliable_collect
      (countable_of_configured hconfig hjobs)
    exact ⟨_, hreport config hconfig hsome havailable, hlinted,
      hzero.mpr ⟨config, hconfig, hclean⟩⟩

end Setting

end LintChain

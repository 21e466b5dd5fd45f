import LintChain.Proofs.Finding
import LintChain.Proofs.Precedence
import LintChain.Proofs.Shelf
import LintChain.Proofs.Workers

/-!
Which linter sees which file. Filters in four places decide it: the configuration, the choice of the
files, the plan, and the loop over the linters of a file. Together they let through exactly the
pairs of an enabled linter and a file in scope that the linter does not leave out, whatever becomes
of the tools and the files.
-/

namespace LintChain

/-! ### Files in scope -/

namespace Discovery

variable {σ : Type} {host : Host σ} {state : σ} {config : Config} {target : Target}

lemma isInScope_of_mem_select {found : List Target}
    (h : target ∈ select host state config found) : config.isInScope target.path.text := by
  have hmem := mem_of_mem_keepFirst (List.mem_mergeSort.mp h)
  simpa using (List.mem_filter.mp hmem).2

end Discovery

/-! ### Positions -/

/-- Fixers come before checkers. -/
lemma Linter.isFixer_of_position_lt {a b : Linter} (h : a.position < b.position)
    (hb : b.spec.isFixer) : a.spec.isFixer := by
  cases a <;> cases b <;> simp_all [position, spec, Spec.isFixer]

/-! ### Pairs -/

/-- There is one report for each target, in the order of the targets, and each names exactly the
enabled linters that do not leave its file out, every fixer before every checker. All files are in
scope. -/
structure Covers (config : Config) (targets : List Target) (files : List FileReport) : Prop where
  paths_eq : files.map (·.path) = targets.map (·.path)
  mem_iff : ∀ file ∈ files, ∀ l, l ∈ file.results.map (·.linter) ↔
    ∃ r ∈ config.linters, r.linter = l ∧ r.enabled ∧
      (r.include? = none ∨ ∃ pattern, r.include? = some pattern ∧ pattern.isMatch file.path.text)
  ordered : ∀ file ∈ files, (file.results.map (·.linter)).Pairwise fun a b =>
    a.position < b.position ∧ (b.spec.isFixer → a.spec.isFixer)
  in_scope : ∀ file ∈ files, config.includePattern.isMatch file.path.text ∧
    ∀ glob ∈ config.exclude, ¬ glob.isMatch file.path.text

lemma ResolvedLinter.includes_iff {r : ResolvedLinter} {path : String} : r.includes path ↔
    r.include? = none ∨ ∃ pattern, r.include? = some pattern ∧ pattern.isMatch path := by
  unfold includes
  cases r.include? <;> simp

lemma Config.isInScope_iff {config : Config} {path : String} : config.isInScope path ↔
    config.includePattern.isMatch path ∧ ∀ glob ∈ config.exclude, ¬ glob.isMatch path := by
  simp [isInScope]

section Pairs

variable {config : Config} {plan : Plan} {targets : List Target} {files : List FileReport}

/-- The linters of a plan that are to see a target are the enabled ones that do not leave it out. -/
lemma Plan.map_linter_lintersFor (hplan : plan.linters.map (·.linter) = config.enabledLinters)
    (target : Target) : (plan.lintersFor target).map (·.linter.linter) =
      (config.enabledLinters.filter (·.includes target.path.text)).map (·.linter) := by
  rw [← hplan, List.filter_map, List.map_map]
  rfl

lemma Covers.of_pairs (hlinters : config.linters.map (·.linter) = Linter.all)
    (hscope : ∀ t ∈ targets, config.isInScope t.path.text)
    (hplan : plan.linters.map (·.linter) = config.enabledLinters)
    (hpairs : files.map (fun file => (file.path, file.results.map (·.linter))) =
      targets.map fun t => (t.path, (plan.lintersFor t).map (·.linter.linter))) :
    Covers config targets files := by
  have hfile : ∀ file ∈ files, ∃ t ∈ targets, t.path = file.path ∧ file.results.map (·.linter) =
      (config.enabledLinters.filter (·.includes file.path.text)).map (·.linter) := by
    intro file hfile
    have hpair := List.mem_map_of_mem
      (f := fun file : FileReport => (file.path, file.results.map (·.linter))) hfile
    rw [hpairs] at hpair
    obtain ⟨t, ht, hpair⟩ := List.mem_map.mp hpair
    obtain ⟨hpath, hresults⟩ := Prod.mk.inj hpair
    exact ⟨t, ht, hpath, by rw [← hresults, ← hpath, Plan.map_linter_lintersFor hplan]⟩
  refine ⟨?_, fun file hmem l => ?_, fun file hmem => ?_, fun file hmem => ?_⟩
  · simpa [Function.comp_def] using congrArg (List.map Prod.fst) hpairs
  · obtain ⟨-, -, -, hresults⟩ := hfile file hmem
    simp only [hresults, List.mem_map, List.mem_filter, Config.enabledLinters,
      ResolvedLinter.includes_iff]
    exact ⟨fun ⟨r, ⟨⟨hr, he⟩, hi⟩, hl⟩ => ⟨r, hr, hl, he, hi⟩,
      fun ⟨r, hr, hl, he, hi⟩ => ⟨r, ⟨⟨hr, he⟩, hi⟩, hl⟩⟩
  · obtain ⟨-, -, -, hresults⟩ := hfile file hmem
    have hsub : (file.results.map (·.linter)).Sublist (config.enabledLinters.map (·.linter)) := by
      rw [hresults]
      exact List.filter_sublist.map _
    refine ((Config.pairwise_enabledLinters hlinters).sublist hsub).imp fun hlt => ?_
    exact ⟨hlt, Linter.isFixer_of_position_lt hlt⟩
  · obtain ⟨t, ht, hpath, -⟩ := hfile file hmem
    rw [← Config.isInScope_iff, ← hpath]
    exact hscope t ht

end Pairs

namespace Setting

variable {σ ω : Type} {m : Setting σ ω} {inv : Invocation} {p : Progress σ ω} {config : Config}

lemma plan_of_allAvailable (h : m.AllAvailable inv config p.session) :
    (plan inv config (m.bootstrapped inv config p.session).1).linters.map (·.linter) =
      config.enabledLinters :=
  Plan.map_linter_ofBootstrap (BootstrapReport.answers_of_isSuccess
    (Bootstrap.map_linter_probeAll _) (isSuccess_iff_allAvailable.mpr h))

/-- **Every pair once.** Where a manifest is accepted, all enabled tools can be used and there are
files, the report of a run covers the files, and there is one if no write is refused and the workers
can be counted. The same goes for the reports that the workers come to in any other order of their
steps. Tools and files may do what they like. -/
theorem coverage (hconfig : m.configured inv p.session.machine = .ok config)
    (havailable : m.AllAvailable inv config p.session)
    (hsome : m.selected inv config p.session.machine ≠ []) :
    (m.writer.Reliable → Plan.Countable config.jobs? →
      ∃ run, (m.lint inv p).1 = .ok run) ∧
    (∀ run, (m.lint inv p).1 = .ok run →
      Covers config (m.selected inv config p.session.machine) run.files) ∧
    ∀ permits scene,
      Workers.Steps m.host m.env (plan inv config (m.bootstrapped inv config p.session).1) permits
        (.start (plan inv config (m.bootstrapped inv config p.session).1)
          (m.selected inv config p.session.machine), m.ready inv config p.session) scene →
      none ∉ scene.1.slots →
      Covers config (m.selected inv config p.session.machine) scene.1.reports := by
  have hscope : ∀ t ∈ m.selected inv config p.session.machine, config.isInScope t.path.text :=
    fun t ht => Discovery.isInScope_of_mem_select ht
  have hlinters := linters_of_configured hconfig
  have hplan := plan_of_allAvailable havailable
  refine ⟨fun hwriter hjobs => ?_, fun run hrun => ?_, fun permits scene hsteps hfull => ?_⟩
  · exact ⟨_, (lint_of_reliable hwriter inv p).trans
      (finding_of_available hconfig (.inl hsome) hjobs havailable)⟩
  · have hexecuted := executed_of_finding hconfig hsome (finding_of_lint hrun)
    rw [Plan.eq_of_execute_eq_ok hexecuted]
    exact .of_pairs hlinters hscope hplan Plan.map_lintFiles
  · exact .of_pairs hlinters hscope hplan
      ((Workers.Steps.sound hsteps (.start _ _ _)).map_reports hfull)

/-- Two files on a shelf, one of them out of the sight of flake8. -/
theorem coverage_shelf :
    let s := Session.begin [("pyproject.toml", "[tool.lint.flake8]\ninclude = \"^a\"\n"),
      ("a.py", "x = 1"), ("b.py", "y = 2\n")]
    let inv : Invocation := ⟨Shelf.directory, [⟨"a.py"⟩, ⟨"b.py"⟩], false, none, none⟩
    ∃ config run, (Shelf.setting.lint inv ⟨s, ""⟩).1 = .ok run ∧
      Covers config [⟨⟨"a.py"⟩, ⟨"/shelf/a.py"⟩⟩, ⟨⟨"b.py"⟩, ⟨"/shelf/b.py"⟩⟩] run.files := by
  intro s inv
  obtain ⟨config, hconfig, hcheck⟩ : ∃ config, Shelf.setting.configured inv s.machine = .ok config ∧
      (config.jobs?.isNone && (Shelf.setting.bootstrapped inv config s).1.isSuccess &&
        decide (keepFirst (Discovery.key Shelf.host s.machine)
          (((inv.paths.map (Discovery.candidates Shelf.host s.machine inv.cwd)).flatMap
            (·.1)).filter fun t => config.isInScope t.path.text) =
          [⟨⟨"a.py"⟩, ⟨"/shelf/a.py"⟩⟩, ⟨⟨"b.py"⟩, ⟨"/shelf/b.py"⟩⟩])) = true :=
    exists_ok_of_check (by decide +kernel)
  simp only [Bool.and_eq_true, decide_eq_true_eq, Option.isNone_iff_eq_none] at hcheck
  obtain ⟨⟨hjobs, hsuccess⟩, hfound⟩ := hcheck
  have hselected : Shelf.setting.selected inv config s.machine =
      [⟨⟨"a.py"⟩, ⟨"/shelf/a.py"⟩⟩, ⟨⟨"b.py"⟩, ⟨"/shelf/b.py"⟩⟩] :=
    (congrArg (List.mergeSort · Target.le) hfound).trans
      (List.mergeSort_of_pairwise (by decide +kernel))
  have hlaw := coverage (p := ⟨s, ""⟩) hconfig (isSuccess_iff_allAvailable.mp hsuccess)
    (hselected ▸ List.cons_ne_nil _ _)
  obtain ⟨run, hrun⟩ := hlaw.1 Writer.reliable_collect (hjobs ▸ Plan.countable_none)
  exact ⟨config, run, hrun, hselected ▸ hlaw.2.1 run hrun⟩

end Setting

end LintChain

import LintChain.Proofs.Stages
import Mathlib.Data.List.Basic

/-!
The linters that take part in a run. A manifest that is accepted knows every linter once, in
canonical order; the bootstrap answers for each enabled one; and where all answers are good the
plan has them all.
-/

namespace LintChain

namespace Config

/-! ### Accepted manifests -/

@[simp] lemma map_linter_applyOverride (linter : Linter) (o : Override) (include? : Option Regex)
    (linters : List ResolvedLinter) :
    (applyOverride linter o include? linters).map (·.linter) = linters.map (·.linter) := by
  rw [applyOverride, List.map_map]
  refine List.map_congr_left fun r _ => ?_
  by_cases h : r.linter = linter <;> simp [h, ResolvedLinter.override]

lemma map_linter_applyOthers {table : Toml.Table} {linters linters' : List ResolvedLinter}
    (h : (applyOthers table linters).2 = .ok linters') :
    linters'.map (·.linter) = linters.map (·.linter) := by
  induction table generalizing linters with
  | nil =>
    obtain rfl : linters = linters' := Except.ok.inj h
    rfl
  | cons entry rest ih =>
    obtain ⟨key, v⟩ := entry
    unfold applyOthers at h
    split at h
    · exact ih h
    · split at h
      · cases h
      · simpa using ih h

/-- What an accepted section has been made into. -/
structure Made (s : Section) (config : Config) : Prop where
  include?_eq : compileInclude (s.include?.getD defaultInclude) = .ok config.includePattern
  exclude?_eq : compileExclude (s.exclude?.getD []) = .ok config.exclude
  others_eq : (applyOthers s.others (catalog.map ResolvedLinter.ofSpec)).2 = .ok config.linters
  jobs?_eq : config.jobs? = s.jobs?
  jobs_ne : config.jobs? ≠ some 0
  timeout?_eq : config.timeout? = s.timeout?.map Duration.ofSeconds
  retry_eq : config.retry = readRetry s.retrySection?

variable {config : Config} {manifest : Path} {s : Section}

/-- An accepted section has passed all checks. -/
lemma made_of_ofSection (h : (ofSection manifest s).2 = .ok config) : Made s config := by
  unfold ofSection at h
  split at h
  · cases h
  next pattern hinclude =>
    split at h
    · cases h
    next globs hexclude =>
      simp only [merge] at h
      cases hothers : (applyOthers s.others (catalog.map ResolvedLinter.ofSpec)).2 with
      | error e => simp [hothers, bind, Except.bind] at h
      | ok linters =>
        by_cases hjobs : s.jobs? = some 0
        · simp [hothers, readJobs, hjobs, bind, Except.bind] at h
        · by_cases htimeout : s.timeout? = some 0
          · simp [hothers, readJobs, hjobs, readTimeout, htimeout, bind, Except.bind] at h
          · simp only [hothers, readJobs, hjobs, readTimeout, htimeout, if_false, bind,
              Except.bind, pure, Except.pure, Except.ok.injEq] at h
            subst h
            exact ⟨hinclude, hexclude, hothers, rfl, hjobs, rfl, rfl⟩

lemma Made.linters_eq (h : Made s config) : config.linters.map (·.linter) = Linter.all :=
  (map_linter_applyOthers h.others_eq).trans rfl

variable {σ : Type} {host : Host σ} {state : σ} {env : Environment} {start : Path}

/-- The section that the manifest of a directory describes. -/
def described (host : Host σ) (state : σ) (env : Environment) (start : Path) :
    Except ConfigError Section := do
  let manifest ← findManifest host state env start
  let contents ← readManifest host state manifest
  readSection manifest contents

lemma exists_made (h : (resolve host state env start).2 = .ok config) :
    ∃ s, described host state env start = .ok s ∧ Made s config := by
  unfold resolve at h
  unfold described
  dsimp only at h
  cases hmanifest : findManifest host state env start with
  | error e => simp [hmanifest, bind, Except.bind] at h
  | ok manifest =>
    cases hcontents : readManifest host state manifest with
    | error e => simp [hmanifest, hcontents, bind, Except.bind] at h
    | ok contents =>
      simp only [hmanifest, hcontents, bind, Except.bind, pure, Except.pure, parse] at h ⊢
      split at h
      · cases h
      next s hsection => exact ⟨s, hsection, made_of_ofSection h⟩

/-! ### Enabled linters -/

/-- **Canonical order**: the enabled linters of a configuration that knows all linters come in the
order of their positions, each once. -/
lemma pairwise_enabledLinters (h : config.linters.map (·.linter) = Linter.all) :
    (config.enabledLinters.map (·.linter)).Pairwise fun a b => a.position < b.position := by
  have hsub : (config.enabledLinters.map (·.linter)).Sublist Linter.all := by
    rw [← h]
    exact List.filter_sublist.map _
  exact List.Pairwise.sublist hsub (by decide)

end Config

/-! ### Probed linters -/

namespace Bootstrap

variable {σ : Type} {host : Host σ} {env : Environment} {settings : ProbeSettings} {s : Session σ}

@[simp] lemma linter_probeLinter (linter : ResolvedLinter) :
    (probeLinter host env settings linter s).1.linter = linter.linter := by
  unfold probeLinter
  split <;> rfl

@[simp] lemma map_linter_probeAll (linters : List ResolvedLinter) :
    (probeAll host env settings linters s).1.map (·.linter) = linters.map (·.linter) := by
  induction linters generalizing s with
  | nil => rfl
  | cons linter rest ih => simp [probeAll, ih]

end Bootstrap

/-- The probes of a bootstrap answer for the linters, all of them with a usable tool. -/
def BootstrapReport.Answers (report : BootstrapReport) (linters : List ResolvedLinter) : Prop :=
  ∀ r ∈ linters, ∃ probed ∈ report.results,
    probed.linter = r.linter ∧ probed.outcome.isAvailable

lemma BootstrapReport.answers_of_isSuccess {report : BootstrapReport}
    {linters : List ResolvedLinter}
    (hlinters : report.results.map (·.linter) = linters.map (·.linter))
    (hsuccess : report.isSuccess) : report.Answers linters := by
  intro r hr
  have hmem : r.linter ∈ report.results.map (·.linter) := hlinters ▸ List.mem_map_of_mem hr
  obtain ⟨probed, hprobed, hlinter⟩ := List.mem_map.mp hmem
  exact ⟨probed, hprobed, hlinter, List.all_eq_true.mp hsuccess probed hprobed⟩

/-! ### Planned linters -/

namespace Plan

variable {report : BootstrapReport} {config : Config} {cwd : Path}

lemma program?_isSome {linter : Linter}
    (h : ∃ probed ∈ report.results, probed.linter = linter ∧ probed.outcome.isAvailable) :
    (program? report linter).isSome := by
  obtain ⟨probed, hprobed, hlinter, havailable⟩ := h
  rw [program?, List.findSome?_isSome_iff]
  refine ⟨probed, hprobed, ?_⟩
  cases houtcome : probed.outcome <;> simp_all [Outcome.isAvailable]

lemma linter_mem_of_mem {planned : PlannedLinter}
    (h : planned ∈ (ofBootstrap config cwd report).1.linters) :
    planned.linter ∈ config.enabledLinters := by
  obtain ⟨r, hr, hplanned⟩ := List.mem_filterMap.mp h
  obtain ⟨program, -, rfl⟩ := Option.map_eq_some_iff.mp hplanned
  exact hr

/-- **Nothing enabled is left out** of a plan that follows a bootstrap with good answers. -/
lemma map_linter_ofBootstrap (h : report.Answers config.enabledLinters) :
    (ofBootstrap config cwd report).1.linters.map (·.linter) = config.enabledLinters := by
  have hplanned : ∀ r ∈ config.enabledLinters, (planned? report r).map (·.linter) = some r := by
    intro r hr
    obtain ⟨program, hprogram⟩ := Option.isSome_iff_exists.mp (program?_isSome (h r hr))
    simp [planned?, hprogram]
  rw [ofBootstrap, List.map_filterMap, List.filterMap_congr hplanned, List.filterMap_some]

end Plan

/-! ### The configuration of an invocation -/

namespace Setting

variable {σ ω : Type} {m : Setting σ ω} {inv : Invocation} {state : σ} {config : Config}

/-- The configuration of an invocation is made of the section that its manifest describes, with the
number of workers that it asks for. -/
lemma exists_made_of_configured (h : m.configured inv state = .ok config) :
    ∃ s base, Config.described m.host state m.env inv.cwd = .ok s ∧ Config.Made s base ∧
      config = { base with jobs? := inv.jobs?.orElse fun _ => base.jobs? } := by
  unfold configured at h
  cases hresolve : (Config.resolve m.host state m.env inv.cwd).2 with
  | error e => simp [hresolve, Except.map] at h
  | ok base =>
    rw [hresolve] at h
    obtain ⟨s, hs, hmade⟩ := Config.exists_made hresolve
    exact ⟨s, base, hs, hmade, (Except.ok.inj h).symm⟩

lemma linters_of_configured (h : m.configured inv state = .ok config) :
    config.linters.map (·.linter) = Linter.all := by
  obtain ⟨s, base, -, hmade, rfl⟩ := exists_made_of_configured h
  exact hmade.linters_eq

lemma jobs_of_configured (h : m.configured inv state = .ok config) (hjobs : inv.jobs? ≠ some 0) :
    config.jobs? ≠ some 0 := by
  obtain ⟨s, base, -, hmade, rfl⟩ := exists_made_of_configured h
  cases hinv : inv.jobs? with
  | none => simpa [hinv] using hmade.jobs_ne
  | some jobs => simpa [hinv] using hjobs

/-- There is at least one worker. -/
lemma workers_pos (h : m.configured inv state = .ok config) (hjobs : inv.jobs? ≠ some 0)
    {cores : Nat} (hcores : 0 < cores) : 0 < config.jobs?.getD cores := by
  have hne := jobs_of_configured h hjobs
  cases hconfig : config.jobs? with
  | none => exact hcores
  | some jobs =>
    rw [hconfig, ne_eq, Option.some.injEq] at hne
    exact Nat.pos_of_ne_zero hne

end Setting

end LintChain

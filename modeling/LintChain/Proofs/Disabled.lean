import LintChain.Proofs.ExitCode
import LintChain.Proofs.Looks
import LintChain.Proofs.Tandem

/-!
Linters that are not enabled. Neither their settings nor their programs make a difference to a run:
to its processes, the files, the text or the code; and no result names them.
-/

namespace LintChain

variable {σ ω : Type}

/-! ### Configurations that differ in disabled linters -/

/-- Two configurations are equal, but for where they come from and for the settings of linters that
are disabled in both. -/
structure Config.SameEnabled (config config' : Config) : Prop extends config.SameWork config' where
  includePattern_eq : config.includePattern = config'.includePattern
  exclude_eq : config.exclude = config'.exclude

namespace Config

variable {config config' : Config}

lemma SameEnabled.isInScope_eq (h : config.SameEnabled config') (path : String) :
    config.isInScope path = config'.isInScope path := by
  rw [isInScope, isInScope, h.includePattern_eq, h.exclude_eq]

/-- The linter is disabled in the configuration. -/
def Disables (config : Config) (l : Linter) : Prop :=
  ∀ r ∈ config.linters, r.linter = l → r.enabled = false

instance (config : Config) (l : Linter) : Decidable (config.Disables l) :=
  inferInstanceAs (Decidable (∀ r ∈ config.linters, r.linter = l → r.enabled = false))

lemma Disables.notMem {l : Linter} (h : config.Disables l) :
    l ∉ config.enabledLinters.map (·.linter) := by
  intro hl
  obtain ⟨r, hr, hlinter⟩ := List.mem_map.mp hl
  obtain ⟨hmem, henabled⟩ := List.mem_filter.mp hr
  simp [h r hmem hlinter] at henabled

/-! ### Manifests that differ in disabled linters -/

/-- An entry of the section is not the table of a linter in `ignored`. -/
def isOutside (ignored : List Linter) (entry : String × Toml.Value) : Bool :=
  (Linter.ofName? entry.1).all (· ∉ ignored)

/-- Two sections are equal, but for the tables of some linters. -/
structure Section.SameOutside (ignored : List Linter) (s s' : Section) : Prop where
  include?_eq : s.include? = s'.include?
  exclude?_eq : s.exclude? = s'.exclude?
  jobs?_eq : s.jobs? = s'.jobs?
  timeout?_eq : s.timeout? = s'.timeout?
  retrySection?_eq : s.retrySection? = s'.retrySection?
  others_eq : s.others.filter (isOutside ignored) = s'.others.filter (isOutside ignored)

/-- There is nothing in the section but tables of some linters. -/
def Section.isBare (ignored : List Linter) (s : Section) : Bool :=
  s.include?.isNone && s.exclude?.isNone && s.jobs?.isNone && s.timeout?.isNone &&
    s.retrySection?.isNone && (s.others.filter (isOutside ignored)).isEmpty

lemma Section.sameOutside_of_isBare {ignored : List Linter} {s s' : Section}
    (h : s.isBare ignored) (h' : s'.isBare ignored) : s.SameOutside ignored s' := by
  simp only [isBare, Bool.and_eq_true, Option.isNone_iff_eq_none, List.isEmpty_iff] at h h'
  obtain ⟨⟨⟨⟨⟨hinclude, hexclude⟩, hjobs⟩, htimeout⟩, hretry⟩, hothers⟩ := h
  obtain ⟨⟨⟨⟨⟨hinclude', hexclude'⟩, hjobs'⟩, htimeout'⟩, hretry'⟩, hothers'⟩ := h'
  exact ⟨hinclude.trans hinclude'.symm, hexclude.trans hexclude'.symm, hjobs.trans hjobs'.symm,
    htimeout.trans htimeout'.symm, hretry.trans hretry'.symm, hothers.trans hothers'.symm⟩

section Others

variable {ignored : List Linter}

/-- A table changes nothing but the settings of its linter. -/
lemma filter_applyOverride {linter : Linter} (o : Override) (include? : Option Regex)
    (linters : List ResolvedLinter) :
    (applyOverride linter o include? linters).filter (·.linter ∉ ignored) =
      applyOverride linter o include? (linters.filter (·.linter ∉ ignored)) := by
  rw [applyOverride, applyOverride, List.filter_map]
  congr 2
  funext r
  by_cases h : r.linter = linter <;> simp [h, ResolvedLinter.override]

lemma applyOverride_of_notMem {linter : Linter} {linters : List ResolvedLinter}
    (h : ∀ r ∈ linters, r.linter ≠ linter) (o : Override) (include? : Option Regex) :
    applyOverride linter o include? linters = linters := by
  have hid : ∀ r ∈ linters, (if r.linter = linter then r.override o include? else r) = r :=
    fun r hr => if_neg (h r hr)
  exact (List.map_congr_left hid).trans (List.map_id linters)

variable (ignored) in
/-- The settings of the other linters do not depend on the tables of the ignored ones. -/
lemma applyOthers_filter {table : Toml.Table} {linters linters' : List ResolvedLinter}
    (h : (applyOthers table linters).2 = .ok linters') :
    (applyOthers (table.filter (isOutside ignored)) (linters.filter (·.linter ∉ ignored))).2 =
      .ok (linters'.filter (·.linter ∉ ignored)) := by
  induction table generalizing linters with
  | nil =>
    obtain rfl : linters = linters' := Except.ok.inj h
    rfl
  | cons entry rest ih =>
    obtain ⟨key, v⟩ := entry
    unfold applyOthers at h
    split at h
    next hkey =>
      have houtside : isOutside ignored (key, v) = true := by simp [isOutside, hkey]
      simp only [List.filter_cons, houtside, if_true, applyOthers, hkey]
      exact ih h
    next linter hkey =>
      split at h
      · cases h
      next o include? hread =>
        have hrest := ih h
        rw [filter_applyOverride] at hrest
        by_cases hmem : linter ∈ ignored
        · have hinside : isOutside ignored (key, v) = false := by simp [isOutside, hkey, hmem]
          have hothers : ∀ r ∈ linters.filter (·.linter ∉ ignored), r.linter ≠ linter := by
            rintro r hr rfl
            simp [hmem] at hr
          rw [applyOverride_of_notMem hothers] at hrest
          simpa only [List.filter_cons, hinside, Bool.false_eq_true, if_false] using hrest
        · have houtside : isOutside ignored (key, v) = true := by simp [isOutside, hkey, hmem]
          simpa only [List.filter_cons, houtside, if_true, applyOthers, hkey, hread] using hrest

end Others

section Made

variable {s s' : Section} {ignored : List Linter}

/-- Without disabled linters none of the enabled ones is lost. -/
lemma filter_enabled_eq (h : ∀ l ∈ ignored, config.Disables l) :
    (config.linters.filter (·.linter ∉ ignored)).filter (·.enabled) = config.enabledLinters := by
  rw [List.filter_filter, enabledLinters]
  refine List.filter_congr fun r hr => ?_
  by_cases hmem : r.linter ∈ ignored
  · simp [h _ hmem r hr rfl]
  · simp [hmem]

/-- Sections that differ in the tables of disabled linters only are made into configurations that
differ in the settings of disabled linters only. -/
lemma Made.sameEnabled (h : Made s config) (h' : Made s' config') (hsame : s.SameOutside ignored s')
    (hdisabled : ∀ l ∈ ignored, config.Disables l)
    (hdisabled' : ∀ l ∈ ignored, config'.Disables l) :
    config.SameEnabled config' where
  enabledLinters_eq := by
    have hlinters := applyOthers_filter ignored h.others_eq
    rw [hsame.others_eq, applyOthers_filter ignored h'.others_eq] at hlinters
    rw [← filter_enabled_eq hdisabled, ← filter_enabled_eq hdisabled', Except.ok.inj hlinters]
  jobs?_eq := by rw [h.jobs?_eq, h'.jobs?_eq, hsame.jobs?_eq]
  timeout?_eq := by rw [h.timeout?_eq, h'.timeout?_eq, hsame.timeout?_eq]
  retry_eq := by rw [h.retry_eq, h'.retry_eq, hsame.retrySection?_eq]
  includePattern_eq := by
    have hinclude := h.include?_eq
    rw [hsame.include?_eq, h'.include?_eq] at hinclude
    exact (Except.ok.inj hinclude).symm
  exclude_eq := by
    have hexclude := h.exclude?_eq
    rw [hsame.exclude?_eq, h'.exclude?_eq] at hexclude
    exact (Except.ok.inj hexclude).symm

end Made

end Config

/-! ### The linters that are named -/

/-- The linters that the result of a run names. -/
def namedLinters : Except LintError RunReport → List Linter
  | .ok run => run.linters
  | .error (.bootstrap report) => report.results.map (·.linter)
  | .error _ => []

namespace Setting

variable {m : Setting σ ω} {inv : Invocation} {config config' : Config} {p q : Progress σ ω}
  {l : Linter}

lemma map_linter_bootstrapped (s : Session σ) :
    (m.bootstrapped inv config s).1.results.map (·.linter) =
      config.enabledLinters.map (·.linter) :=
  Bootstrap.map_linter_probeAll _

lemma mem_of_executed {s : Session σ} {files : List FileReport}
    (h : m.executed inv config s = .ok files)
    (hl : l ∈ files.flatMap fun file => file.results.map (·.linter)) :
    l ∈ config.enabledLinters.map (·.linter) := by
  obtain rfl := Plan.eq_of_execute_eq_ok h
  obtain ⟨file, hfile, hl⟩ := List.mem_flatMap.mp hl
  have hpair := List.mem_map_of_mem (f := fun file : FileReport =>
    (file.path, file.results.map (·.linter))) hfile
  rw [Plan.map_lintFiles] at hpair
  obtain ⟨target, -, heq⟩ := List.mem_map.mp hpair
  rw [← (Prod.mk.inj heq).2] at hl
  obtain ⟨planned, hplanned, rfl⟩ := List.mem_map.mp hl
  exact List.mem_map_of_mem (Plan.linter_mem_of_mem (Plan.mem_lintersFor.mp hplanned).1)

lemma mem_of_finding {s : Session σ} (hconfig : m.configured inv s.machine = .ok config)
    (hl : l ∈ namedLinters (m.finding inv s)) : l ∈ config.enabledLinters.map (·.linter) := by
  simp only [finding, hconfig] at hl
  split at hl
  · cases hl
  · split at hl
    · split at hl
      · rwa [namedLinters, RunReport.linters, List.flatMap_nil, List.append_nil,
          map_linter_bootstrapped] at hl
      · cases hexecuted : m.executed inv config s with
        | error e =>
          rw [hexecuted] at hl
          cases hl
        | ok files =>
          rw [hexecuted] at hl
          rcases List.mem_append.mp hl with hl | hl
          · rwa [map_linter_bootstrapped] at hl
          · exact mem_of_executed hexecuted hl
    · rwa [namedLinters, map_linter_bootstrapped] at hl

/-- Only enabled linters are named. -/
lemma mem_of_namedLinters (hconfig : m.configured inv p.session.machine = .ok config)
    (hl : l ∈ namedLinters (m.lint inv p).1) : l ∈ config.enabledLinters.map (·.linter) := by
  obtain ⟨s, ⟨out, hlint⟩ | ⟨-, e, q, hlint⟩⟩ := m.yields_lint inv p
  · rw [hlint] at hl
    exact mem_of_finding hconfig hl
  · rw [hlint] at hl
    cases hl

section Disabled

variable {s s' : Config.Section} {ignored : List Linter} {kept : Set Path} {R : σ → σ → Prop}
  (hs : Config.described m.host p.session.machine m.env inv.cwd = .ok s)
  (hs' : Config.described m.host q.session.machine m.env inv.cwd = .ok s')
  (hsame : s.SameOutside ignored s')
  (hconfig : m.configured inv p.session.machine = .ok config)
  (hconfig' : m.configured inv q.session.machine = .ok config')
  (hdisabled : ∀ l ∈ ignored, config.Disables l ∧ config'.Disables l)

include hs hs' hsame hconfig hconfig' hdisabled

lemma sameEnabled_of_described : config.SameEnabled config' := by
  obtain ⟨_, base, hdescribed, hmade, rfl⟩ := exists_made_of_configured hconfig
  obtain ⟨_, base', hdescribed', hmade', rfl⟩ := exists_made_of_configured hconfig'
  obtain rfl := Except.ok.inj (hdescribed.symm.trans hs)
  obtain rfl := Except.ok.inj (hdescribed'.symm.trans hs')
  have h := hmade.sameEnabled hmade' hsame (fun l hl => (hdisabled l hl).1)
    fun l hl => (hdisabled l hl).2
  exact ⟨⟨h.enabledLinters_eq, by simp only [h.jobs?_eq], h.timeout?_eq, h.retry_eq⟩,
    h.includePattern_eq, h.exclude_eq⟩

/-- **A disabled linter has no influence.** Let the manifests of two runs differ only in the tables
of linters that are disabled under both, and let the machines mirror each other in what enabled
linters are asked for, so that they may differ in the programs of disabled ones. Then the runs come
to the same code and text, start the same processes in the same order and leave the same contents;
they have the same views, whatever is done side by side; and neither of them, nor any of their
courses, has a result of a disabled linter. -/
theorem disabled_irrelevant
    (hfiles : Discovery.SameFiles m.host inv.cwd inv.paths p.session.machine q.session.machine)
    (c : Mirrors m.host m.env inv config (m.selected inv config p.session.machine) kept R)
    (h : p.InStep R q) :
    ((m.run inv p).1 = (m.run inv q).1 ∧
      (m.run inv p).2.out = (m.run inv q).2.out ∧
      (m.run inv p).2.session.started = (m.run inv q).2.session.started ∧
      (∀ path ∈ kept, m.host.read (m.run inv p).2.session.machine path =
        m.host.read (m.run inv q).2.session.machine path) ∧
      (m.lint inv p).1 = (m.lint inv q).1 ∧
      ∀ cores view, Course.Shows m inv cores kept p view ↔ Course.Shows m inv cores kept q view) ∧
    ∀ l, config.Disables l ∨ config'.Disables l →
      l ∉ namedLinters (m.lint inv p).1 ∧ l ∉ namedLinters (m.lint inv q).1 ∧
      ∀ cores, ¬ Course.Names m inv cores p l ∧ ¬ Course.Names m inv cores q l := by
  have henabled := sameEnabled_of_described hs hs' hsame hconfig hconfig' hdisabled
  have hselected : m.selected inv config' q.session.machine =
      m.selected inv config p.session.machine :=
    (congrArg Prod.fst (Discovery.discover_congr hfiles henabled.isInScope_eq)).symm
  have hwork := henabled.toSameWork
  obtain ⟨hcode, hlast⟩ := inStep_run c hwork hconfig hconfig' rfl hselected h
  obtain ⟨hreport, -⟩ := inStep_lint c hwork hconfig hconfig' rfl hselected h
  refine ⟨⟨hcode, hlast.out, hlast.session.started, fun path => c.read_eq hlast.session.machine,
    hreport, fun cores => Course.shows_iff c hwork hconfig hconfig' rfl hselected h⟩, ?_⟩
  intro l hl
  have hnot : l ∉ config.enabledLinters.map (·.linter) := by
    rcases hl with hl | hl
    · exact hl.notMem
    · rw [hwork.enabledLinters_eq]
      exact hl.notMem
  have hnot' : l ∉ config'.enabledLinters.map (·.linter) := hwork.enabledLinters_eq ▸ hnot
  exact ⟨fun hmem => hnot (mem_of_namedLinters hconfig hmem),
    fun hmem => hnot' (mem_of_namedLinters hconfig' hmem), fun cores =>
    ⟨fun hnames => hnot (hnames.mem hconfig), fun hnames => hnot' (hnames.mem hconfig')⟩⟩

end Disabled

end Setting

/-! ### A bench with and without a program -/

/-- A shelf, and the programs that are missing from the directory of programs. -/
structure Bench where
  shelf : Shelf
  missing : List Path

namespace Bench

def perform (command : Command) (bench : Bench) : Except ProcessError Output × Bench :=
  if command.program ∈ bench.missing then (.error (.notStarted .notFound), bench)
  else (.ok Shelf.output, { bench with shelf := Shelf.after command bench.shelf })

def host : Host Bench where
  kind? bench := Shelf.host.kind? bench.shelf
  list bench := Shelf.host.list bench.shelf
  canonical? bench := Shelf.host.canonical? bench.shelf
  read bench := Shelf.host.read bench.shelf
  isExecutable bench path := Shelf.host.isExecutable bench.shelf path && path ∉ bench.missing
  run := perform
  runWithin _ command bench := ((perform command bench).1.map some, (perform command bench).2)
  pause _ bench := bench

def setting : Setting Bench String := ⟨host, Shelf.setting.env, .collect⟩

section Perform

variable {command : Command} {bench : Bench}

lemma perform_of_mem (h : command.program ∈ bench.missing) :
    host.perform command bench =
      (.error (.notStarted command.program .notFound), bench) := by
  unfold Host.perform
  cases command.timeout? <;> simp [host, perform, h] <;> rfl

lemma perform_of_notMem (h : command.program ∉ bench.missing) :
    host.perform command bench =
      (.ok Shelf.output, { bench with shelf := Shelf.after command bench.shelf }) := by
  unfold Host.perform
  cases command.timeout? <;> simp [host, perform, h] <;> rfl

end Perform

/-- Two benches are alike, but for one file and one program. -/
structure Alike (name : String) (program : Path) (a b : Bench) : Prop where
  textAt?_eq (name? : Option String) (h : name? ≠ some name) :
    a.shelf.textAt? name? = b.shelf.textAt? name?
  mem_missing_iff (path : Path) (h : path ≠ program) : path ∈ a.missing ↔ path ∈ b.missing

/-- The first file can have another text, and a program can be taken away. -/
lemma Alike.of_cons (name : String) (program : Path) (text text' : String) (rest : Shelf) :
    Alike name program ⟨(name, text) :: rest, []⟩ ⟨(name, text') :: rest, [program]⟩ where
  textAt?_eq name? h := by
    cases name? with
    | none => rfl
    | some key =>
      have hne : name ≠ key := fun heq => h (heq ▸ rfl)
      simp [Shelf.textAt?, Shelf.get?, hne]
  mem_missing_iff path h := by simp [h]

/-- A process of a program that is on both benches or on neither ends alike on both. -/
lemma Alike.perform {name : String} {program : Path} {a b : Bench} (h : Alike name program a b)
    {command : Command} (hne : command.program ≠ program) :
    (host.perform command a).1 = (host.perform command b).1 ∧
      Alike name program (host.perform command a).2 (host.perform command b).2 := by
  by_cases hmissing : command.program ∈ a.missing
  · have hmissing' := (h.mem_missing_iff _ hne).mp hmissing
    rw [perform_of_mem hmissing, perform_of_mem hmissing']
    exact ⟨rfl, h⟩
  · have hmissing' := mt (h.mem_missing_iff _ hne).mpr hmissing
    rw [perform_of_notMem hmissing, perform_of_notMem hmissing']
    refine ⟨rfl, fun name? hname => ?_, h.mem_missing_iff⟩
    rw [Shelf.textAt?_after, Shelf.textAt?_after, h.textAt?_eq name? hname]

/-- Benches that are alike but for the program of a disabled linter mirror each other. -/
lemma mirrors {env : Environment} {inv : Invocation} {config : Config} {targets : List Target}
    {name : String} {program : Path}
    (htargets : ∀ target ∈ targets, Shelf.nameOf? target.absolute ≠ some name)
    (hplaces : ∀ r ∈ config.enabledLinters, program ∉ inv.places env r) :
    Mirrors host env inv config targets {path | Shelf.nameOf? path ≠ some name}
      (Alike name program) := by
  have hne : ∀ {command}, Starts env inv config targets command → command.program ≠ program := by
    rintro command hc rfl
    obtain ⟨r, hr, hplace⟩ := hc.exists_place
    exact hplaces r hr hplace
  refine ⟨fun {target} ht => htargets target ht, fun h path hpath => ?_,
    fun h r hr place hplace => ?_, fun h command hc => (h.perform (hne hc)).1,
    fun h command hc => (h.perform (hne hc)).2, fun h _ => h⟩
  · simp only [host, Shelf.host, h.textAt?_eq _ hpath]
  · have hplace : place ≠ program := by
      rintro rfl
      exact hplaces r hr hplace
    simp only [host, Shelf.host, h.mem_missing_iff place hplace]

end Bench

namespace Setting

/-- Where isort is disabled its program can be taken away, and its settings can be changed. -/
theorem disabled_irrelevant_bench :
    let a : Bench := ⟨[("pyproject.toml", "[tool.lint]\nisort = \x7benabled = false\x7d\n"),
      ("a.py", "x = 1")], []⟩
    let b : Bench := ⟨[("pyproject.toml",
      "[tool.lint.isort]\nrun = false\nexecutable = \"isort5\"\noptions = [\"-q\"]\n"),
      ("a.py", "x = 1")], [⟨"/bin/isort"⟩]⟩
    let inv : Invocation := ⟨Shelf.directory, [⟨"a.py"⟩], false, none, none⟩
    (Bench.setting.run inv ⟨.begin a, ""⟩).2.out = (Bench.setting.run inv ⟨.begin b, ""⟩).2.out ∧
      .isort ∉ namedLinters (Bench.setting.lint inv ⟨.begin a, ""⟩).1 := by
  intro a b inv
  let target : Target := ⟨⟨"a.py"⟩, ⟨"/shelf/a.py"⟩⟩
  obtain ⟨s, hs, hbare⟩ : ∃ s, Config.described Bench.setting.host a Bench.setting.env inv.cwd =
      .ok s ∧ s.isBare [.isort] = true := exists_ok_of_check (by decide +kernel)
  obtain ⟨s', hs', hbare'⟩ : ∃ s, Config.described Bench.setting.host b Bench.setting.env inv.cwd =
      .ok s ∧ s.isBare [.isort] = true := exists_ok_of_check (by decide +kernel)
  obtain ⟨config, hconfig, hcheck⟩ : ∃ config, Bench.setting.configured inv a = .ok config ∧
      (decide (config.Disables .isort) &&
        decide (∀ r ∈ config.enabledLinters, ⟨"/bin/isort"⟩ ∉ inv.places Bench.setting.env r) &&
        decide (Bench.setting.FindsOnly inv config a target)) = true :=
    exists_ok_of_check (by decide +kernel)
  obtain ⟨config', hconfig', hoff'⟩ : ∃ config, Bench.setting.configured inv b = .ok config ∧
      decide (config.Disables .isort) = true := exists_ok_of_check (by decide +kernel)
  have hfiles : Discovery.SameFiles Bench.setting.host inv.cwd inv.paths a b :=
    ⟨by decide +kernel, fun _ _ => rfl, fun _ _ _ _ => rfl⟩
  have halike : Bench.Alike "pyproject.toml" ⟨"/bin/isort"⟩ a b := .of_cons _ _ _ _ _
  have htarget : Shelf.nameOf? target.absolute ≠ some "pyproject.toml" := by decide
  clear_value a b inv target
  simp only [Bool.and_eq_true, decide_eq_true_eq] at hcheck hoff'
  obtain ⟨⟨hoff, hplaces⟩, hfound⟩ := hcheck
  have hsame := Config.Section.sameOutside_of_isBare hbare hbare'
  have hdisabled : ∀ l ∈ [Linter.isort], config.Disables l ∧ config'.Disables l :=
    List.forall_mem_singleton.mpr ⟨hoff, hoff'⟩
  have hselected : Bench.setting.selected inv config a = [target] := hfound.selected_eq
  have hmirrors : Mirrors Bench.setting.host Bench.setting.env inv config
      (Bench.setting.selected inv config a) _ _ :=
    Bench.mirrors (by rw [hselected]; exact List.forall_mem_singleton.mpr htarget) hplaces
  obtain ⟨⟨-, hout, -⟩, hnames⟩ := disabled_irrelevant (m := Bench.setting) (p := ⟨.begin a, ""⟩)
    (q := ⟨.begin b, ""⟩) hs hs' hsame hconfig hconfig' hdisabled hfiles hmirrors
    ⟨⟨halike, rfl⟩, rfl⟩
  exact ⟨hout, (hnames .isort (.inl hoff)).1⟩

end Setting

end LintChain

import LintChain.Proofs.Replay
import Mathlib.Data.List.Find
import Mathlib.Data.List.Nodup

/-!
Two machines that cannot be told apart by what a run asks of them. If all processes that the run may
start end alike on both and leave them so, then the run comes to the same on both: the same results,
the same text and the same processes.
-/

namespace LintChain

variable {σ ω α β : Type}

/-! ### What may be asked -/

/-- Where the program of a linter is looked for. -/
def Invocation.places (inv : Invocation) (env : Environment) (r : ResolvedLinter) : List Path :=
  Executable.candidates env inv.searchPath? inv.cwd r.executable

/-- The process of a linter on a file, with a program that was found for it. -/
def Invocation.toolCommand (inv : Invocation) (env : Environment) (config : Config)
    (r : ResolvedLinter) (program : Path) (target : Target) : Command :=
  ⟨program, r.args ++ [target.path.text], inv.cwd, (env.toolVariables r.linter).1, config.timeout?⟩

/-- The processes that a run may start under a configuration, whatever its probes come to. -/
inductive Starts (env : Environment) (inv : Invocation) (config : Config) (targets : List Target) :
    Command → Prop
  | probe {r : ResolvedLinter} {program : Path} (hr : r ∈ config.enabledLinters)
      (hprogram : program ∈ inv.places env r) :
      Starts env inv config targets
        (Course.probeCommand env (Setting.probeSettings inv config) r program)
  | tool {r : ResolvedLinter} {program : Path} {target : Target} (hr : r ∈ config.enabledLinters)
      (hprogram : program ∈ inv.places env r) (htarget : target ∈ targets)
      (hincludes : r.includes target.path.text) :
      Starts env inv config targets (inv.toolCommand env config r program target)

lemma Starts.exists_place {env : Environment} {inv : Invocation} {config : Config}
    {targets : List Target} {command : Command} (h : Starts env inv config targets command) :
    ∃ r ∈ config.enabledLinters, command.program ∈ inv.places env r := by
  cases h with
  | probe hr hprogram | tool hr hprogram => exact ⟨_, hr, hprogram⟩

/-- Two configurations ask for the same work on files. -/
structure Config.SameWork (config config' : Config) : Prop where
  enabledLinters_eq : config.enabledLinters = config'.enabledLinters
  jobs?_eq : config.jobs? = config'.jobs?
  timeout?_eq : config.timeout? = config'.timeout?
  retry_eq : config.retry = config'.retry

/-- Machines that `R` relates are alike in the content of the files in `kept`, the targets among
them, and in which programs of enabled linters there are. What a run does keeps them related. -/
structure Mirrors (host : Host σ) (env : Environment) (inv : Invocation) (config : Config)
    (targets : List Target) (kept : Set Path) (R : σ → σ → Prop) : Prop where
  mem_kept {target : Target} (ht : target ∈ targets) : target.absolute ∈ kept
  read_eq {a b : σ} (h : R a b) {path : Path} (hpath : path ∈ kept) :
    host.read a path = host.read b path
  isExecutable_eq {a b : σ} (h : R a b) {r : ResolvedLinter} (hr : r ∈ config.enabledLinters)
    {program : Path} (hprogram : program ∈ inv.places env r) :
    host.isExecutable a program = host.isExecutable b program
  result_eq {a b : σ} (h : R a b) {command : Command} (hc : Starts env inv config targets command) :
    (host.perform command a).1 = (host.perform command b).1
  effect {a b : σ} (h : R a b) {command : Command} (hc : Starts env inv config targets command) :
    R (host.perform command a).2 (host.perform command b).2
  pause {a b : σ} (h : R a b) (span : Duration) : R (host.pause span a) (host.pause span b)

/-- Two sessions on related machines that have started the same processes. -/
structure Session.InStep (R : σ → σ → Prop) (s t : Session σ) : Prop where
  machine : R s.machine t.machine
  started : s.started = t.started

/-- The same has been found out, and the sessions are in step. -/
structure Agree (R : σ → σ → Prop) (x y : α × Session σ) : Prop where
  fst : x.1 = y.1
  snd : x.2.InStep R y.2

section InStep

variable {R : σ → σ → Prop} {s t : Session σ} (h : s.InStep R t)

include h

lemma Session.InStep.warn (ws ws' : List Warning) : (s.warn ws).InStep R (t.warn ws') :=
  ⟨h.machine, by simpa using h.started⟩

lemma Session.InStep.record (command : Command) :
    (s.record (.started command)).InStep R (t.record (.started command)) :=
  ⟨h.machine, by simpa using h.started⟩

end InStep

/-! ### Programs where they were looked for -/

/-- A probe is one of an enabled linter, and the program that it found, if it is usable, stands
where it was looked for. -/
def Probed.Placed (env : Environment) (inv : Invocation) (config : Config) (probed : Probed) :
    Prop :=
  ∃ r ∈ config.enabledLinters, r.linter = probed.linter ∧
    ∀ program version, probed.outcome = .available program version → program ∈ inv.places env r

def BootstrapReport.Placed (env : Environment) (inv : Invocation) (config : Config)
    (report : BootstrapReport) : Prop :=
  ∀ probed ∈ report.results, probed.Placed env inv config

/-- A good probe is one of the program that was probed. -/
lemma Bootstrap.eq_of_judge {spec : Spec} {program found : Path} {probe : Probe} {attempt : UInt32}
    {version : Option String}
    (h : (Bootstrap.judge spec program probe attempt).1 = .available found version) :
    found = program := by
  unfold Bootstrap.judge at h
  split at h
  · unfold Bootstrap.checkVersion at h
    split at h
    · exact (Outcome.available.inj h).1.symm
    · split at h
      · exact (Outcome.available.inj h).1.symm
      · split at h
        · cases h
        · exact (Outcome.available.inj h).1.symm
  · split at h <;> cases h

lemma Executable.mem_of_find? {host : Host σ} {state : σ} {env : Environment}
    {inv : Invocation} {r : ResolvedLinter} {program : Path}
    (h : find? host state env inv.searchPath? inv.cwd r.executable = some program) :
    program ∈ inv.places env r := by
  unfold find? at h
  split at h
  · cases h
  · exact List.mem_of_find?_eq_some h

/-- The probes of a program that has been found, with the settings of an invocation. -/
lemma Bootstrap.probeLinter_of_found {host : Host σ} {env : Environment} {inv : Invocation}
    {config : Config} {r : ResolvedLinter} {program : Path} {s : Session σ}
    (h : Executable.find? host s.machine env inv.searchPath? inv.cwd r.executable = some program) :
    probeLinter host env (Setting.probeSettings inv config) r s =
      let ended := probeUntil host
        (Course.probeCommand env (Setting.probeSettings inv config) r program) config.retry
        (retries (Setting.probeSettings inv config) r.spec) 0
        (s.warn (env.toolVariables r.linter).2)
      (Course.probeResult r program ended.2.1 ended.1,
        ended.2.2.warn (judge r.spec program ended.1 ended.2.1).2) :=
  Course.probeLinter_of_some h

/-- The program of a planned linter stands where it was looked for. -/
lemma Plan.mem_places {env : Environment} {inv : Invocation} {config : Config}
    {report : BootstrapReport} {planned : PlannedLinter}
    (hlinters : config.linters.map (·.linter) = Linter.all) (hplaced : report.Placed env inv config)
    (h : planned ∈ (Setting.plan inv config report).linters) :
    planned.program ∈ inv.places env planned.linter := by
  obtain ⟨r, hr, hplanned⟩ := List.mem_filterMap.mp h
  obtain ⟨program, hprogram, rfl⟩ := Option.map_eq_some_iff.mp hplanned
  obtain ⟨probed, hprobed, hfound⟩ := List.exists_of_findSome?_eq_some hprogram
  obtain ⟨version, houtcome, hlinter⟩ : ∃ version, probed.outcome = .available program version ∧
      probed.linter = r.linter := by
    cases houtcome : probed.outcome <;> simp_all
  obtain ⟨r', hr', hlinter', hplace⟩ := hplaced probed hprobed
  -- no two linters of the configuration have one name
  have hnodup : (config.enabledLinters.map (·.linter)).Nodup :=
    (Config.pairwise_enabledLinters hlinters).imp fun hlt heq => by simp [heq] at hlt
  obtain rfl := List.inj_on_of_nodup_map hnodup hr' hr (hlinter'.trans hlinter)
  exact hplace program version houtcome

/-- What a plan starts for a file are processes that the run may start. -/
lemma Plan.starts {env : Environment} {inv : Invocation} {config : Config}
    {report : BootstrapReport} (hlinters : config.linters.map (·.linter) = Linter.all)
    (hplaced : report.Placed env inv config) {targets : List Target} {target : Target}
    (ht : target ∈ targets) {planned : PlannedLinter}
    (h : planned ∈ (Setting.plan inv config report).lintersFor target) :
    Starts env inv config targets ((Setting.plan inv config report).toolCommand env planned target)
      := by
  obtain ⟨hplanned, hincludes⟩ := Plan.mem_lintersFor.mp h
  exact .tool (Plan.linter_mem_of_mem hplanned) (Plan.mem_places hlinters hplaced hplanned) ht
    hincludes

namespace Bootstrap

variable {host : Host σ} {env : Environment} {inv : Invocation} {config : Config} {s : Session σ}

lemma placed_probeResult {r : ResolvedLinter} (hr : r ∈ config.enabledLinters) {program : Path}
    (hprogram : program ∈ inv.places env r) (attempt : UInt32) (probe : Probe) :
    (Course.probeResult r program attempt probe).Placed env inv config := by
  refine ⟨r, hr, rfl, fun found version houtcome => ?_⟩
  obtain rfl := eq_of_judge houtcome
  exact hprogram

lemma placed_probeLinter {r : ResolvedLinter} (hr : r ∈ config.enabledLinters) :
    (probeLinter host env (Setting.probeSettings inv config) r s).1.Placed env inv config := by
  cases hfound : Executable.find? host s.machine env inv.searchPath? inv.cwd r.executable with
  | none =>
    simp only [probeLinter, Setting.probeSettings, hfound]
    refine ⟨r, hr, rfl, ?_⟩
    rintro program version ⟨⟩
  | some program =>
    rw [probeLinter_of_found hfound]
    exact placed_probeResult hr (Executable.mem_of_find? hfound) _ _

lemma placed_probeAll {linters : List ResolvedLinter}
    (hlinters : ∀ r ∈ linters, r ∈ config.enabledLinters) :
    ∀ probed ∈ (probeAll host env (Setting.probeSettings inv config) linters s).1,
      probed.Placed env inv config := by
  induction linters generalizing s with
  | nil => simp [probeAll]
  | cons r rest ih =>
    obtain ⟨hr, hrest⟩ := List.forall_mem_cons.mp hlinters
    exact List.forall_mem_cons.mpr ⟨placed_probeLinter hr, ih hrest⟩

end Bootstrap

namespace Mirrors

variable {host : Host σ} {env : Environment} {inv : Invocation} {config : Config}
  {targets : List Target} {kept : Set Path} {R : σ → σ → Prop}
  (c : Mirrors host env inv config targets kept R) {s t : Session σ}

include c

/-! ### Probes -/

section Probes

variable {r : ResolvedLinter} (hr : r ∈ config.enabledLinters) (h : s.InStep R t)

include hr h

lemma find?_eq :
    Executable.find? host s.machine env inv.searchPath? inv.cwd r.executable =
      Executable.find? host t.machine env inv.searchPath? inv.cwd r.executable := by
  unfold Executable.find?
  split
  · rfl
  · exact List.find?_congr fun program hprogram => c.isExecutable_eq h.machine hr hprogram

omit hr

lemma await {command : Command} (hc : Starts env inv config targets command) :
    Agree R (s.await host command) (t.await host command) :=
  ⟨c.result_eq h.machine hc, c.effect h.machine hc, h.started⟩

lemma inStep_pause (span : Duration) : (s.pause host span).InStep R (t.pause host span) :=
  ⟨c.pause h.machine span, by simpa using h.started⟩

lemma probeUntil {command : Command} (hc : Starts env inv config targets command)
    (policy : RetryPolicy) (left : Nat) (attempt : UInt32) :
    (Bootstrap.probeUntil host command policy left attempt s).1 =
        (Bootstrap.probeUntil host command policy left attempt t).1 ∧
      Agree R (Bootstrap.probeUntil host command policy left attempt s).2
        (Bootstrap.probeUntil host command policy left attempt t).2 := by
  induction left generalizing attempt s t with
  | zero =>
    obtain ⟨hresult, hsession⟩ := c.await (h.record command) hc
    simp only [Bootstrap.probeUntil, Session.run_eq_await, hresult]
    exact ⟨trivial, rfl, hsession⟩
  | succ left ih =>
    obtain ⟨hresult, hsession⟩ := c.await (h.record command) hc
    simp only [Bootstrap.probeUntil, Session.run_eq_await, hresult]
    split
    · exact ⟨rfl, rfl, hsession⟩
    · exact ih (c.inStep_pause hsession _) _

include hr

lemma probeLinter :
    Agree R (Bootstrap.probeLinter host env (Setting.probeSettings inv config) r s)
      (Bootstrap.probeLinter host env (Setting.probeSettings inv config) r t) := by
  cases hfound : Executable.find? host t.machine env inv.searchPath? inv.cwd r.executable with
  | none =>
    have hmissing := (c.find?_eq hr h).trans hfound
    simp only [Bootstrap.probeLinter, Setting.probeSettings, hmissing, hfound]
    exact ⟨rfl, h⟩
  | some program =>
    rw [Bootstrap.probeLinter_of_found ((c.find?_eq hr h).trans hfound),
      Bootstrap.probeLinter_of_found hfound]
    obtain ⟨hprobe, hattempt, hsession⟩ := c.probeUntil
      (h.warn (env.toolVariables r.linter).2 (env.toolVariables r.linter).2)
      (.probe hr (Executable.mem_of_find? hfound)) config.retry
      (Bootstrap.retries (Setting.probeSettings inv config) r.spec) 0
    refine ⟨?_, hsession.warn _ _⟩
    dsimp only
    rw [hprobe, hattempt]

omit hr

lemma probeAll {linters : List ResolvedLinter}
    (hlinters : ∀ r ∈ linters, r ∈ config.enabledLinters) :
    Agree R (Bootstrap.probeAll host env (Setting.probeSettings inv config) linters s)
      (Bootstrap.probeAll host env (Setting.probeSettings inv config) linters t) := by
  induction linters generalizing s t with
  | nil => exact ⟨rfl, h⟩
  | cons r rest ih =>
    obtain ⟨hr, hrest⟩ := List.forall_mem_cons.mp hlinters
    obtain ⟨hprobed, hsession⟩ := c.probeLinter hr h
    obtain ⟨hothers, hlast⟩ := ih hsession hrest
    exact ⟨congrArg₂ List.cons hprobed hothers, hlast⟩

end Probes

/-! ### Files -/

section Files

variable {plan : Plan} {target : Target} (ht : target ∈ targets)

include ht

lemma invoke {planned : PlannedLinter}
    (hc : Starts env inv config targets (plan.toolCommand env planned target))
    (h : s.InStep R t) :
    Agree R (plan.invoke host env planned target s) (plan.invoke host env planned target t) := by
  have hread := c.read_eq h.machine (c.mem_kept ht)
  cases hs : host.read s.machine target.absolute with
  | error reason =>
    rw [Plan.invoke_of_unreadable hs, Plan.invoke_of_unreadable (hread ▸ hs)]
    exact ⟨rfl, h⟩
  | ok bytes =>
    rw [Plan.invoke_of_readable hs, Plan.invoke_of_readable (hread ▸ hs)]
    simp only [Session.run_eq_await]
    have hwarn := h.warn (env.toolVariables planned.linter.linter).2
      (env.toolVariables planned.linter.linter).2
    obtain ⟨hresult, hsession⟩ := c.await (hwarn.record _) hc
    refine ⟨?_, hsession⟩
    simp only [hresult, Snapshot.take, c.read_eq hsession.machine (c.mem_kept ht)]

lemma invokeAll {linters : List PlannedLinter}
    (hc : ∀ planned ∈ linters, Starts env inv config targets (plan.toolCommand env planned target))
    (h : s.InStep R t) :
    Agree R (plan.invokeAll host env target linters s)
      (plan.invokeAll host env target linters t) := by
  induction linters generalizing s t with
  | nil => exact ⟨rfl, h⟩
  | cons planned rest ih =>
    obtain ⟨hplanned, hrest⟩ := List.forall_mem_cons.mp hc
    obtain ⟨hresult, hsession⟩ := c.invoke ht hplanned h
    obtain ⟨hresults, hlast⟩ := ih hrest hsession
    exact ⟨congrArg₂ List.cons hresult hresults, hlast⟩

omit ht

variable (hc : ∀ target ∈ targets, ∀ planned ∈ plan.lintersFor target,
  Starts env inv config targets (plan.toolCommand env planned target))

include hc

lemma lintFiles {files : List Target} (hfiles : ∀ target ∈ files, target ∈ targets)
    (h : s.InStep R t) :
    Agree R (plan.lintFiles host env files s) (plan.lintFiles host env files t) := by
  induction files generalizing s t with
  | nil => exact ⟨rfl, h⟩
  | cons target rest ih =>
    obtain ⟨ht, hrest⟩ := List.forall_mem_cons.mp hfiles
    obtain ⟨hresults, hsession⟩ := c.invokeAll ht (hc target ht) h
    obtain ⟨hreports, hlast⟩ := ih hrest hsession
    exact ⟨congrArg₂ List.cons (congrArg (FileReport.mk target.path) hresults) hreports, hlast⟩

lemma execute (h : s.InStep R t) :
    Agree R (plan.execute host env targets s) (plan.execute host env targets t) := by
  by_cases hjobs : Plan.Countable plan.jobs?
  · rw [Plan.execute_of_countable hjobs, Plan.execute_of_countable hjobs]
    obtain ⟨hreports, hlast⟩ := c.lintFiles hc (fun _ => id) h
    exact ⟨congrArg Except.ok hreports, hlast⟩
  · obtain ⟨jobs, hsome, hlt⟩ : ∃ jobs, plan.jobs? = some jobs ∧ Plan.maxWorkers < jobs := by
      simpa [Plan.Countable] using hjobs
    rw [Plan.execute_of_lt hsome hlt, Plan.execute_of_lt hsome hlt]
    exact ⟨rfl, h⟩

end Files

end Mirrors

/-! ### Configurations -/

lemma Config.SameWork.refl (config : Config) : config.SameWork config := ⟨rfl, rfl, rfl, rfl⟩

lemma Config.SameWork.symm {config config' : Config} (h : config.SameWork config') :
    config'.SameWork config :=
  ⟨h.enabledLinters_eq.symm, h.jobs?_eq.symm, h.timeout?_eq.symm, h.retry_eq.symm⟩

namespace Setting

variable {m : Setting σ ω} {inv : Invocation} {config config' : Config}
  (h : config.SameWork config')

include h

lemma probeSettings_congr : probeSettings inv config = probeSettings inv config' := by
  rw [probeSettings, probeSettings, h.retry_eq, h.timeout?_eq]

lemma ofBootstrap_congr (report : BootstrapReport) :
    Plan.ofBootstrap config inv.cwd report = Plan.ofBootstrap config' inv.cwd report := by
  rw [Plan.ofBootstrap, Plan.ofBootstrap, h.enabledLinters_eq, h.jobs?_eq, h.timeout?_eq]

lemma lintDiscovered_congr : m.lintDiscovered inv config = m.lintDiscovered inv config' := by
  have hprobes : Bootstrap.run m.host m.env (probeSettings inv config) config =
      Bootstrap.run m.host m.env (probeSettings inv config') config' := by
    funext s
    rw [Bootstrap.run, Bootstrap.run, probeSettings_congr h, h.enabledLinters_eq]
  have hbootstrap : m.bootstrap inv config = m.bootstrap inv config' := by
    rw [bootstrap, bootstrap, hprobes]
  have htargets : m.lintTargets inv config = m.lintTargets inv config' := by
    funext report targets
    simp only [lintTargets, ofBootstrap_congr h]
  funext targets
  simp only [lintDiscovered, hbootstrap, htargets, h.enabledLinters_eq]

end Setting

section Flip

variable {host : Host σ} {env : Environment} {inv : Invocation} {config config' : Config}
  {targets : List Target} {kept : Set Path} {R : σ → σ → Prop}

lemma Starts.congr {command : Command} (hs : Starts env inv config targets command)
    (h : config.SameWork config') : Starts env inv config' targets command := by
  cases hs with
  | probe hr hprogram =>
    rw [Setting.probeSettings_congr h]
    exact .probe (h.enabledLinters_eq ▸ hr) hprogram
  | @tool r program target hr hprogram ht hincludes =>
    have hcommand : inv.toolCommand env config r program target =
        inv.toolCommand env config' r program target := by
      rw [Invocation.toolCommand, Invocation.toolCommand, h.timeout?_eq]
    rw [hcommand]
    exact .tool (h.enabledLinters_eq ▸ hr) hprogram ht hincludes

/-- The same relation, seen from the other machine. -/
lemma Mirrors.flip (c : Mirrors host env inv config targets kept R) (h : config.SameWork config') :
    Mirrors host env inv config' targets kept (Function.swap R) where
  mem_kept := c.mem_kept
  read_eq hR _ hpath := (c.read_eq hR hpath).symm
  isExecutable_eq hR _ hr _ hprogram :=
    (c.isExecutable_eq hR (h.enabledLinters_eq ▸ hr) hprogram).symm
  result_eq hR _ hc := (c.result_eq hR (hc.congr h.symm)).symm
  effect hR _ hc := c.effect hR (hc.congr h.symm)
  pause hR := c.pause hR

/-- Every machine mirrors itself. -/
lemma Mirrors.refl (host : Host σ) (env : Environment) (inv : Invocation) (config : Config)
    (targets : List Target) : Mirrors host env inv config targets Set.univ Eq where
  mem_kept _ := trivial
  read_eq h _ _ := by rw [h]
  isExecutable_eq h _ _ _ _ := by rw [h]
  result_eq h _ _ := by rw [h]
  effect h _ _ := by rw [h]
  pause h _ := by rw [h]

end Flip

/-! ### Stages -/

/-- Two runs that have come equally far. -/
structure Progress.InStep (R : σ → σ → Prop) (p q : Progress σ ω) : Prop where
  session : p.session.InStep R q.session
  out : p.out = q.out

lemma Progress.InStep.flip {R : σ → σ → Prop} {p q : Progress σ ω} (h : p.InStep R q) :
    q.InStep (Function.swap R) p :=
  ⟨⟨h.session.machine, h.session.started.symm⟩, h.out.symm⟩

/-- A stage does the same to runs that have come equally far, and what it comes to has `P`. -/
def Stage.Steady (R : σ → σ → Prop) (x : Stage σ ω α) (P : α → Prop) : Prop :=
  ∀ p q, p.InStep R q → (x p).1 = (x q).1 ∧ (x p).2.InStep R (x q).2 ∧
    ∀ a, (x p).1 = .ok a → P a

namespace Stage.Steady

variable {R : σ → σ → Prop} {x : Stage σ ω α} {f : α → Stage σ ω β} {P : α → Prop} {Q : β → Prop}

lemma pure {a : α} (h : P a) : Steady R (Pure.pure a : Stage σ ω α) P :=
  fun _ _ hpq => ⟨rfl, hpq, fun _ ha => Except.ok.inj ha ▸ h⟩

lemma bind (hx : Steady R x P) (hf : ∀ a, P a → Steady R (f a) Q) : Steady R (x >>= f) Q := by
  intro p q hpq
  obtain ⟨hresult, hnext, hP⟩ := hx p q hpq
  rcases hp : x p with ⟨e | a, p'⟩ <;> rcases hq : x q with ⟨e' | a', q'⟩ <;>
    rw [hp, hq] at hresult hnext <;> rw [hp] at hP <;> cases hresult
  · rw [Stage.bind_of_error hp, Stage.bind_of_error hq]
    exact ⟨rfl, hnext, by rintro _ ⟨⟩⟩
  · rw [Stage.bind_of_ok hp, Stage.bind_of_ok hq]
    exact hf a (hP a rfl) p' q' hnext

end Stage.Steady

namespace Setting

variable {m : Setting σ ω} {inv : Invocation} {config : Config} {targets : List Target}
  {kept : Set Path} {R : σ → σ → Prop}

lemma steady_writing {act : ω → Except WriteError Unit × ω} :
    (writing act : Stage σ ω Unit).Steady R fun _ => True := by
  rintro ⟨s, out⟩ ⟨t, -⟩ ⟨hsession, rfl⟩
  exact ⟨rfl, ⟨hsession, rfl⟩, fun _ _ => trivial⟩

lemma steady_writeIf (wanted : Bool) (lines : List Line) :
    (m.writeIf wanted lines).Steady R fun _ => True := by
  cases wanted with
  | false => exact .pure trivial
  | true => exact steady_writing

lemma steady_conclude (result : Except LintError RunReport) :
    (m.conclude result).Steady R fun _ => True := by
  rcases result with e | run
  · cases e with
    | workers e => exact fun p q hpq => ⟨rfl, hpq, fun _ _ => trivial⟩
    | _ => exact .bind steady_writing fun _ _ => .pure trivial
  · exact .pure trivial

variable (c : Mirrors m.host m.env inv config targets kept R)

include c

lemma steady_bootstrap :
    (m.bootstrap inv config).Steady R fun report => report.Placed m.env inv config := by
  rintro p q ⟨hsession, hout⟩
  obtain ⟨hresults, hlast⟩ := c.probeAll hsession fun r (hr : r ∈ config.enabledLinters) => hr
  have hreport : (m.probed inv config p.session).1 = (m.probed inv config q.session).1 :=
    congrArg BootstrapReport.mk hresults
  rw [bootstrap_apply, bootstrap_apply, hreport]
  refine ⟨rfl, ⟨hlast, hout⟩, fun report hok => ?_⟩
  split at hok
  · obtain rfl := Except.ok.inj hok
    exact Bootstrap.placed_probeAll fun r hr => hr
  · cases hok

variable {report : BootstrapReport} (hlinters : config.linters.map (·.linter) = Linter.all)

include hlinters

lemma steady_lintTargets (hplaced : report.Placed m.env inv config) :
    (m.lintTargets inv config report targets).Steady R fun _ => True := by
  rintro p q ⟨hsession, hout⟩
  obtain ⟨hreports, hlast⟩ : Agree R
      ((plan inv config report).execute m.host m.env targets (engaged inv config report p.session))
      ((plan inv config report).execute m.host m.env targets (engaged inv config report q.session))
      := c.execute (fun target ht planned => Plan.starts hlinters hplaced ht) (hsession.warn _ _)
  rcases hp : (plan inv config report).execute m.host m.env targets
    (engaged inv config report p.session) with ⟨r, s⟩
  rcases hq : (plan inv config report).execute m.host m.env targets
    (engaged inv config report q.session) with ⟨r', t⟩
  rw [hp, hq] at hreports hlast
  obtain rfl : r = r' := hreports
  rw [lintTargets_of_execute hp, lintTargets_of_execute hq]
  exact ⟨rfl, ⟨hlast, hout⟩, fun _ _ => trivial⟩

lemma steady_lintListed (hplaced : report.Placed m.env inv config) :
    (m.lintListed inv config targets report).Steady R fun _ => True := by
  refine .bind steady_writing fun _ _ => ?_
  cases targets with
  | nil => exact .pure trivial
  | cons target rest =>
    exact .bind (steady_lintTargets c hlinters hplaced) fun files _ =>
      .bind steady_writing fun _ _ => .bind steady_writing fun _ _ => .pure trivial

lemma steady_lintDiscovered : (m.lintDiscovered inv config targets).Steady R fun _ => True := by
  rw [lintDiscovered_eq]
  exact .bind (steady_writeIf _ _) fun _ _ => .bind (steady_bootstrap c) fun report hplaced =>
    .bind (steady_writeIf _ _) fun _ _ => steady_lintListed c hlinters hplaced

/-! ### Runs -/

section Runs

variable {config' : Config} (hwork : config.SameWork config') {p q : Progress σ ω}
  (hconfig : m.configured inv p.session.machine = .ok config)
  (hconfig' : m.configured inv q.session.machine = .ok config')
  (htargets : m.selected inv config p.session.machine = targets)
  (htargets' : m.selected inv config' q.session.machine = targets)
  (h : p.InStep R q)

omit hlinters

include hwork hconfig hconfig' htargets htargets' h

/-- **Related machines, equal runs.** If two configurations find the same files and ask for the same
work on them, then two runs under them come to the same and stay in step. -/
theorem inStep_lint :
    (m.lint inv p).1 = (m.lint inv q).1 ∧ (m.lint inv p).2.InStep R (m.lint inv q).2 := by
  have hprepared : Progress.InStep R { p with session := m.prepared inv config p.session }
      { q with session := m.prepared inv config' q.session } :=
    ⟨(h.session.warn _ _).warn _ _, h.out⟩
  by_cases hidle : targets = [] ∧ inv.bootstrap = false
  · obtain ⟨rfl, hflag⟩ := hidle
    have hempty : (do m.writeTargets []; return RunReport.empty : Stage σ ω RunReport).Steady R
        fun _ => True := .bind steady_writing fun _ _ => .pure trivial
    rw [lint_of_idle hconfig htargets hflag, lint_of_idle hconfig' htargets' hflag]
    obtain ⟨hresult, hlast, -⟩ := hempty _ _ hprepared
    exact ⟨hresult, hlast⟩
  · have hbusy : targets ≠ [] ∨ inv.bootstrap = true := by
      rwa [not_and_or, Bool.not_eq_false] at hidle
    rw [lint_of_busy hconfig (by rwa [htargets]), lint_of_busy hconfig' (by rwa [htargets']),
      htargets, htargets', ← lintDiscovered_congr hwork]
    obtain ⟨hresult, hlast, -⟩ := steady_lintDiscovered c (linters_of_configured hconfig) _ _
      hprepared
    exact ⟨hresult, hlast⟩

theorem inStep_run :
    (m.run inv p).1 = (m.run inv q).1 ∧ (m.run inv p).2.InStep R (m.run inv q).2 := by
  obtain ⟨hresult, hlast⟩ := inStep_lint c hwork hconfig hconfig' htargets htargets' h
  rw [run_apply, run_apply, hresult]
  obtain ⟨hcode, hend, -⟩ := steady_conclude (m.lint inv q).1 _ _ hlast
  exact ⟨hcode, hend⟩

end Runs

end Setting

end LintChain

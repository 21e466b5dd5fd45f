import LintChain.Proofs.ExitCode
import LintChain.Proofs.Looks
import LintChain.Proofs.Tandem
import LintChain.Proofs.Trail

/-!
A run after a run that reported no change. Where processes are functions of their arguments and of
their file, and touch nothing else, such a run has left the machine as it was, and another run comes
to the same.
-/

namespace LintChain

variable {σ ω α β : Type}

/-- As far as a run goes, what becomes of a process depends on what the machine shows, and nothing
but processes changes the machine. In the state `a` a probe changes nothing, and neither does a
linter that leaves the content of its file as it is. -/
structure Repeatable (host : Host σ) (env : Environment) (inv : Invocation) (config : Config)
    (targets : List Target) (a : σ) : Prop where
  result_eq {s t : σ} (h : host.Alike s t) {command : Command}
    (hc : Starts env inv config targets command) :
    (host.perform command s).1 = (host.perform command t).1
  effect {s t : σ} (h : host.Alike s t) {command : Command}
    (hc : Starts env inv config targets command) :
    host.Alike (host.perform command s).2 (host.perform command t).2
  pause (s : σ) (span : Duration) : host.Alike s (host.pause span s)
  probe {r : ResolvedLinter} (hr : r ∈ config.enabledLinters) {program : Path}
    (hprogram : program ∈ inv.places env r) :
    host.Alike a (host.perform
      (Course.probeCommand env (Setting.probeSettings inv config) r program) a).2
  tool {r : ResolvedLinter} (hr : r ∈ config.enabledLinters) {program : Path}
    (hprogram : program ∈ inv.places env r) {target : Target} (ht : target ∈ targets)
    (hincludes : r.includes target.path.text)
    (hread : host.read (host.perform (inv.toolCommand env config r program target) a).2
      target.absolute = host.read a target.absolute) :
    host.Alike a (host.perform (inv.toolCommand env config r program target) a).2

/-- The contents that the targets have in the state `a`, and after one linter in that state. -/
def contentsNear (host : Host σ) (env : Environment) (inv : Invocation) (config : Config)
    (targets : List Target) (a : σ) : Set ByteArray :=
  {bytes | ∃ target ∈ targets, host.read a target.absolute = .ok bytes ∨
    ∃ r ∈ config.enabledLinters, ∃ program ∈ inv.places env r, r.includes target.path.text ∧
      host.read (host.perform (inv.toolCommand env config r program target) a).2 target.absolute =
        .ok bytes}

namespace Repeatable

variable {host : Host σ} {env : Environment} {inv : Invocation} {config : Config}
  {targets : List Target} {a : σ} (c : Repeatable host env inv config targets a) {s : Session σ}

include c

lemma mirrors : Mirrors host env inv config targets Set.univ host.Alike where
  mem_kept _ := trivial
  read_eq h _ _ := congrFun h.read_eq _
  isExecutable_eq h _ _ _ _ := congrFun h.isExecutable_eq _
  result_eq := c.result_eq
  effect := c.effect
  pause h span := (c.pause _ span).symm.trans (h.trans (c.pause _ span))

/-- A process that changes nothing in `a` changes nothing in a state like it. -/
lemma alike_perform {command : Command} (hc : Starts env inv config targets command)
    (hrest : host.Alike a (host.perform command a).2) {t : σ} (h : host.Alike a t) :
    host.Alike a (host.perform command t).2 := hrest.trans (c.effect h hc)

variable (h : host.Alike a s.machine)

/-! ### Probes -/

include h

lemma alike_probeUntil {command : Command} (hc : Starts env inv config targets command)
    (hrest : host.Alike a (host.perform command a).2) (policy : RetryPolicy) (left : Nat)
    (attempt : UInt32) :
    host.Alike a (Bootstrap.probeUntil host command policy left attempt s).2.2.machine := by
  induction left generalizing attempt s with
  | zero => simpa [Bootstrap.probeUntil, Session.run_eq_await] using c.alike_perform hc hrest h
  | succ left ih =>
    have hafter := c.alike_perform hc hrest h
    simp only [Bootstrap.probeUntil, Session.run_eq_await]
    split
    · simpa using hafter
    · exact ih (hafter.trans (c.pause _ _)) _

lemma alike_probeLinter {r : ResolvedLinter} (hr : r ∈ config.enabledLinters) :
    host.Alike a
      (Bootstrap.probeLinter host env (Setting.probeSettings inv config) r s).2.machine := by
  cases hfound : Executable.find? host s.machine env inv.searchPath? inv.cwd r.executable with
  | none => simpa only [Bootstrap.probeLinter, Setting.probeSettings, hfound] using h
  | some program =>
    rw [Bootstrap.probeLinter_of_found hfound]
    have hprogram : program ∈ inv.places env r := Executable.mem_of_find? hfound
    have hwarn : host.Alike a (s.warn (env.toolVariables r.linter).2).machine := h
    exact c.alike_probeUntil hwarn (.probe hr hprogram) (c.probe hr hprogram) _ _ _

lemma alike_probeAll {linters : List ResolvedLinter}
    (hlinters : ∀ r ∈ linters, r ∈ config.enabledLinters) :
    host.Alike a
      (Bootstrap.probeAll host env (Setting.probeSettings inv config) linters s).2.machine := by
  induction linters generalizing s with
  | nil => exact h
  | cons r rest ih =>
    obtain ⟨hr, hrest⟩ := List.forall_mem_cons.mp hlinters
    exact ih (c.alike_probeLinter h hr) hrest

/-! ### Files -/

variable (hdigest : Set.InjOn Sha256.digest (contentsNear host env inv config targets a))
  {report : BootstrapReport} (hlinters : config.linters.map (·.linter) = Linter.all)
  (hplaced : report.Placed env inv config)

include hdigest hlinters hplaced

/-- A linter that reports no change has changed nothing. -/
lemma alike_invoke {target : Target} (ht : target ∈ targets) {planned : PlannedLinter}
    (hplanned : planned ∈ (Setting.plan inv config report).lintersFor target)
    (hsame : ((Setting.plan inv config report).invoke host env planned target s).1.changed =
      false) :
    host.Alike a
      ((Setting.plan inv config report).invoke host env planned target s).2.machine := by
  set command := (Setting.plan inv config report).toolCommand env planned target with hcommand
  have hc : Starts env inv config targets command := Plan.starts hlinters hplaced ht hplanned
  obtain ⟨hmem, hincludes⟩ := Plan.mem_lintersFor.mp hplanned
  have hr := Plan.linter_mem_of_mem hmem
  have hprogram := Plan.mem_places hlinters hplaced hmem
  cases hbefore : host.read s.machine target.absolute with
  | error reason =>
    rw [Plan.invoke_of_unreadable hbefore]
    exact h
  | ok bytes =>
    have hmachine : ((Setting.plan inv config report).invoke host env planned target s).2.machine =
        (host.perform command s.machine).2 := by
      rw [Plan.invoke_of_readable hbefore]
      simp [Session.run_eq_await, hcommand]
    have hread : ∀ {x}, Plan.content? host target
        ((Setting.plan inv config report).invoke host env planned target s).2 = some x →
          host.read (host.perform command a).2 target.absolute = .ok x := by
      intro x hx
      rw [(c.effect h hc).read_eq, ← hmachine]
      exact Plan.content?_eq_some_iff.mp hx
    have hstart : ∀ {x}, Plan.content? host target s = some x →
        host.read a target.absolute = .ok x := by
      intro x hx
      rw [h.read_eq]
      exact Plan.content?_eq_some_iff.mp hx
    -- what the file has become here, it would have become in `a`
    have hlink := Plan.link_invoke fun x y hx hy => hdigest ⟨target, ht, .inl (hstart hx)⟩
      ⟨target, ht, .inr ⟨planned.linter, hr, planned.program, hprogram, hincludes, hread hy⟩⟩
    have hcontent := (hlink.changed_eq_false_iff.mp hsame).trans (Plan.content?_of_ok hbefore)
    rw [hmachine]
    refine c.alike_perform hc (c.tool hr hprogram ht hincludes ?_) h
    exact (hread hcontent).trans (hstart (Plan.content?_of_ok hbefore)).symm

lemma alike_invokeAll {target : Target} (ht : target ∈ targets) {linters : List PlannedLinter}
    (hlinters' : ∀ planned ∈ linters, planned ∈ (Setting.plan inv config report).lintersFor target)
    (hsame : ∀ result ∈ ((Setting.plan inv config report).invokeAll host env target linters s).1,
      result.changed = false) :
    host.Alike a
      ((Setting.plan inv config report).invokeAll host env target linters s).2.machine := by
  induction linters generalizing s with
  | nil => exact h
  | cons planned rest ih =>
    obtain ⟨hplanned, hrest⟩ := List.forall_mem_cons.mp hlinters'
    obtain ⟨hfirst, hothers⟩ := List.forall_mem_cons.mp hsame
    exact ih (c.alike_invoke h hdigest hlinters hplaced ht hplanned hfirst) hrest hothers

/-- Files without a reported change are as they were. -/
lemma alike_lintFiles {files : List Target} (hfiles : ∀ target ∈ files, target ∈ targets)
    (hsame : ∀ file ∈ ((Setting.plan inv config report).lintFiles host env files s).1,
      file.changed = false) :
    host.Alike a ((Setting.plan inv config report).lintFiles host env files s).2.machine := by
  induction files generalizing s with
  | nil => exact h
  | cons target rest ih =>
    obtain ⟨ht, hrest⟩ := List.forall_mem_cons.mp hfiles
    obtain ⟨hfirst, hothers⟩ := List.forall_mem_cons.mp hsame
    refine ih (c.alike_invokeAll h hdigest hlinters hplaced ht (fun _ => id) ?_) hrest hothers
    simpa [FileReport.changed] using hfirst

end Repeatable

/-! ### What a complete run has done -/

lemma Stage.exists_of_bind_eq_ok {x : Stage σ ω α} {f : α → Stage σ ω β} {p q : Progress σ ω}
    {b : β}
    (h : (x >>= f) p = (.ok b, q)) : ∃ a p', x p = (.ok a, p') ∧ f a p' = (.ok b, q) := by
  rcases hx : x p with ⟨e | a, p'⟩
  · rw [Stage.bind_of_error hx] at h
    cases h
  · rw [Stage.bind_of_ok hx] at h
    exact ⟨a, p', rfl, h⟩

lemma Plan.lintFiles_of_execute {host : Host σ} {env : Environment} {plan : Plan}
    {targets : List Target} {s t : Session σ} {files : List FileReport}
    (h : plan.execute host env targets s = (.ok files, t)) :
    plan.lintFiles host env targets s = (files, t) := by
  unfold execute at h
  split at h
  · cases h
  · simpa [Prod.ext_iff] using h

namespace Setting

variable {m : Setting σ ω} {inv : Invocation} {config : Config} {targets : List Target}
  {p q : Progress σ ω} {run : RunReport}

lemma session_writeIf {wanted : Bool} {lines : List Line} {u : Unit}
    (h : m.writeIf wanted lines p = (.ok u, q)) : q.session = p.session := by
  cases wanted with
  | false => exact congrArg (fun x => x.2.session) h.symm
  | true => exact congrArg (fun x => x.2.session) h.symm

lemma of_bootstrap_eq_ok {report : BootstrapReport}
    (h : m.bootstrap inv config p = (.ok report, q)) :
    report = (m.probed inv config p.session).1 ∧
      q.session = (m.probed inv config p.session).2 := by
  rw [bootstrap_apply, Prod.mk.injEq] at h
  obtain ⟨hreport, rfl⟩ := h
  split at hreport
  · exact ⟨(Except.ok.inj hreport).symm, rfl⟩
  · cases hreport

lemma of_lintTargets_eq_ok {report : BootstrapReport} {files : List FileReport}
    (h : m.lintTargets inv config report targets p = (.ok files, q)) :
    (plan inv config report).lintFiles m.host m.env targets (engaged inv config report p.session) =
      (files, q.session) := by
  rcases hexecute : (plan inv config report).execute m.host m.env targets
    (engaged inv config report p.session) with ⟨e | files', t⟩
  · rw [lintTargets_of_execute hexecute] at h
    cases h
  · rw [lintTargets_of_execute hexecute] at h
    cases h
    exact Plan.lintFiles_of_execute hexecute

lemma of_writeResults_eq_ok {result : RunReport} (h : m.writeResults run p = (.ok result, q)) :
    result = run ∧ q.session = p.session := by
  obtain ⟨_, p₁, hlines, h⟩ := Stage.exists_of_bind_eq_ok h
  obtain ⟨_, p₂, hflush, h⟩ := Stage.exists_of_bind_eq_ok h
  have h₁ : p₁.session = p.session := congrArg (fun x => x.2.session) hlines.symm
  have h₂ : p₂.session = p₁.session := congrArg (fun x => x.2.session) hflush.symm
  cases h
  exact ⟨rfl, h₂.trans h₁⟩

/-- A complete run with something to do has probed the tools, and then linted the files. -/
lemma of_lintDiscovered_eq_ok (h : m.lintDiscovered inv config targets p = (.ok run, q)) :
    run.bootstrap = (m.probed inv config p.session).1 ∧
      ∃ s : Session σ, s.machine = (m.probed inv config p.session).2.machine ∧
        (plan inv config run.bootstrap).lintFiles m.host m.env targets s = (run.files, q.session)
      := by
  rw [lintDiscovered_eq] at h
  obtain ⟨_, p₁, hprogress, h⟩ := Stage.exists_of_bind_eq_ok h
  obtain ⟨report, p₂, hprobes, h⟩ := Stage.exists_of_bind_eq_ok h
  obtain ⟨_, p₃, hverdict, h⟩ := Stage.exists_of_bind_eq_ok h
  obtain ⟨_, p₄, hlist, h⟩ := Stage.exists_of_bind_eq_ok h
  obtain ⟨hreport, h₂⟩ := of_bootstrap_eq_ok hprobes
  have h₄ : p₄.session = p₃.session := congrArg (fun x => x.2.session) hlist.symm
  rw [session_writeIf hprogress] at hreport h₂
  rw [session_writeIf hverdict, h₂] at h₄
  cases targets with
  | nil =>
    cases h
    exact ⟨hreport, _, congrArg Session.machine h₄, rfl⟩
  | cons target rest =>
    obtain ⟨files, p₅, htargets, h⟩ := Stage.exists_of_bind_eq_ok h
    obtain ⟨rfl, hlast⟩ := of_writeResults_eq_ok h
    have hfiles := of_lintTargets_eq_ok htargets
    rw [← hlast] at hfiles
    exact ⟨hreport, engaged inv config report p₄.session, by rw [← h₄]; rfl, hfiles⟩

/-! ### Runs -/

/-- A complete run that reports no change has changed nothing. -/
lemma alike_of_unchanged
    (c : Repeatable m.host m.env inv config (m.selected inv config p.session.machine)
      p.session.machine)
    (hdigest : Set.InjOn Sha256.digest (contentsNear m.host m.env inv config
      (m.selected inv config p.session.machine) p.session.machine))
    (hconfig : m.configured inv p.session.machine = .ok config)
    (hrun : (m.lint inv p).1 = .ok run) (hsame : ∀ file ∈ run.files, file.changed = false) :
    m.host.Alike p.session.machine (m.lint inv p).2.session.machine := by
  rcases h : m.lint inv p with ⟨r, q⟩
  rw [h] at hrun
  obtain rfl : r = .ok run := hrun
  by_cases hidle : m.selected inv config p.session.machine = [] ∧ inv.bootstrap = false
  · rw [lint_of_idle hconfig hidle.1 hidle.2] at h
    obtain ⟨_, p₁, hlist, h⟩ := Stage.exists_of_bind_eq_ok h
    have hsession : p₁.session = m.prepared inv config p.session :=
      congrArg (fun x => x.2.session) hlist.symm
    cases h
    rw [hsession]
    exact .refl m.host p.session.machine
  · have hbusy : m.selected inv config p.session.machine ≠ [] ∨ inv.bootstrap = true := by
      rwa [not_and_or, Bool.not_eq_false] at hidle
    rw [lint_of_busy hconfig hbusy] at h
    obtain ⟨hreport, s, hs, hfiles⟩ := of_lintDiscovered_eq_ok h
    have hprobed : m.host.Alike p.session.machine s.machine := by
      rw [hs]
      have hstart : m.host.Alike p.session.machine (m.prepared inv config p.session).machine :=
        .refl m.host p.session.machine
      exact c.alike_probeAll hstart fun _ => id
    have hplaced : run.bootstrap.Placed m.env inv config := by
      rw [hreport]
      exact Bootstrap.placed_probeAll fun _ => id
    have hlast := c.alike_lintFiles hprobed hdigest (linters_of_configured hconfig) hplaced
      (fun _ => id) (by rwa [hfiles])
    rwa [hfiles] at hlast

/-- The code of a complete run is all that comes after the report. -/
lemma session_of_lint_eq_ok (h : (m.lint inv p).1 = .ok run) :
    (m.run inv p).2.session = (m.lint inv p).2.session := by
  rw [run_apply, h]
  rfl

/-- **A clean run is a fixed point.** Let the processes of a run depend on what the machine shows
and touch their files only, and let no two contents near the start have the same digest. If a
complete run reports no change of any file, then nothing that the machine shows has changed, and a
second run has the same configuration and the same files, starts the same processes, and comes to
the same report, the same text and the same code, again without changing anything. The same can be
seen of both, whatever is done side by side. -/
theorem relint {a : σ} {out : ω}
    (c : Repeatable m.host m.env inv config (m.selected inv config a) a)
    (hdigest : Set.InjOn Sha256.digest
      (contentsNear m.host m.env inv config (m.selected inv config a) a))
    (hconfig : m.configured inv a = .ok config) (hrun : (m.lint inv ⟨.begin a, out⟩).1 = .ok run)
    (hsame : ∀ file ∈ run.files, file.changed = false) {b : σ}
    (hb : (m.run inv ⟨.begin a, out⟩).2.session.machine = b) :
    m.host.Alike a b ∧ m.configured inv b = .ok config ∧
      m.selected inv config b = m.selected inv config a ∧
      (m.lint inv ⟨.begin b, out⟩).1 = .ok run ∧
      (m.run inv ⟨.begin b, out⟩).1 = (m.run inv ⟨.begin a, out⟩).1 ∧
      (m.run inv ⟨.begin b, out⟩).2.out = (m.run inv ⟨.begin a, out⟩).2.out ∧
      (m.run inv ⟨.begin b, out⟩).2.session.started =
        (m.run inv ⟨.begin a, out⟩).2.session.started ∧
      m.host.Alike a (m.run inv ⟨.begin b, out⟩).2.session.machine ∧
      ∀ cores view, Course.Shows m inv cores Set.univ ⟨.begin a, out⟩ view ↔
        Course.Shows m inv cores Set.univ ⟨.begin b, out⟩ view := by
  have halike : m.host.Alike a b := by
    rw [← hb, session_of_lint_eq_ok hrun]
    exact alike_of_unchanged (p := ⟨.begin a, out⟩) c hdigest hconfig hrun hsame
  have hconfig' : m.configured inv b = .ok config := by rw [← configured_congr halike, hconfig]
  have hselected : m.selected inv config b = m.selected inv config a :=
    congrArg Prod.fst (Discovery.discover_congr (.of_alike halike.symm _ _) fun _ => rfl)
  have hstart : Progress.InStep m.host.Alike ⟨.begin a, out⟩ ⟨.begin b, out⟩ :=
    ⟨⟨halike, rfl⟩, rfl⟩
  obtain ⟨hreport, -⟩ := inStep_lint (p := ⟨.begin a, out⟩) (q := ⟨.begin b, out⟩) c.mirrors
    (.refl config) hconfig hconfig' rfl hselected hstart
  obtain ⟨hcode, hlast⟩ := inStep_run (p := ⟨.begin a, out⟩) (q := ⟨.begin b, out⟩) c.mirrors
    (.refl config) hconfig hconfig' rfl hselected hstart
  have hviews : ∀ cores view, Course.Shows m inv cores Set.univ ⟨.begin a, out⟩ view ↔
      Course.Shows m inv cores Set.univ ⟨.begin b, out⟩ view := fun cores =>
    Course.shows_iff c.mirrors (.refl config) hconfig hconfig' rfl hselected hstart
  have hend := hlast.session.machine
  rw [hb] at hend
  exact ⟨halike, hconfig', hselected, hreport.symm.trans hrun, hcode.symm, hlast.out.symm,
    hlast.session.started.symm, halike.trans hend, hviews⟩

end Setting

/-! ### A shelf with nothing to do -/

namespace Shelf

lemma names_after (command : Command) (shelf : Shelf) :
    (after command shelf).map (·.1) = shelf.map (·.1) := by
  unfold after edit
  split <;> simp [Function.comp_def]

/-- Two shelves look alike if they have files of the same names with the same texts. -/
lemma alike_iff {s t : Shelf} : host.Alike s t ↔
    s.map (·.1) = t.map (·.1) ∧ ∀ path, s.textAt? (nameOf? path) = t.textAt? (nameOf? path) := by
  constructor
  · intro h
    have hlist : s.map (fun entry => (entry.1, Listing.file)) =
        t.map (fun entry => (entry.1, Listing.file)) :=
      Listing.directory.inj (congrFun h.list_eq directory)
    refine ⟨?_, fun path => ?_⟩
    · simpa [Function.comp_def] using congrArg (List.map Prod.fst) hlist
    · have hread := congrFun h.read_eq path
      simp only [host] at hread
      cases hs : s.textAt? (nameOf? path) <;> cases ht : t.textAt? (nameOf? path) <;>
        simp_all [String.toByteArray_inj]
  · rintro ⟨hnames, htexts⟩
    have hlist : s.map (fun entry => (entry.1, Listing.file)) =
        t.map (fun entry => (entry.1, Listing.file)) := by
      simpa [Function.comp_def] using congrArg (List.map fun name => (name, Listing.file)) hnames
    refine ⟨?_, ?_, rfl, ?_, rfl⟩
    · funext path
      simp only [host, htexts]
    · funext path
      exact congrArg Listing.directory hlist
    · funext path
      simp only [host, htexts]

lemma alike_after {s t : Shelf} (h : host.Alike s t) (command : Command) :
    host.Alike (after command s) (after command t) := by
  obtain ⟨hnames, htexts⟩ := alike_iff.mp h
  rw [alike_iff, names_after, names_after]
  refine ⟨hnames, fun path => ?_⟩
  rw [textAt?_after, textAt?_after, htexts]

/-- Where all texts end with a line feed there is nothing to do. -/
lemma after_of_ended {shelf : Shelf} (h : ∀ entry ∈ shelf, endLine entry.2 = entry.2)
    (command : Command) : after command shelf = shelf := by
  unfold after edit
  split
  next name _ =>
    have hid : ∀ entry ∈ shelf,
        (entry.1, if entry.1 = name then endLine entry.2 else entry.2) = entry := by
      intro entry hentry
      simp [h entry hentry]
    exact (List.map_congr_left hid).trans (List.map_id shelf)
  · rfl

lemma repeatable {shelf : Shelf} (h : ∀ entry ∈ shelf, endLine entry.2 = entry.2)
    (env : Environment) (inv : Invocation) (config : Config) (targets : List Target) :
    Repeatable host env inv config targets shelf where
  result_eq _ _ _ := by rw [perform_eq, perform_eq]
  effect halike _ _ := by
    rw [perform_eq, perform_eq]
    exact alike_after halike _
  pause s _ := .refl host s
  probe _ _ _ := by
    rw [perform_eq, after_of_ended h]
    exact .refl host shelf
  tool _ _ _ _ _ _ _ := by
    rw [perform_eq, after_of_ended h]
    exact .refl host shelf

/-- A single file has a single content. -/
lemma subsingleton_contentsNear {shelf : Shelf} (h : ∀ entry ∈ shelf, endLine entry.2 = entry.2)
    (env : Environment) (inv : Invocation) (config : Config) (target : Target) :
    (contentsNear host env inv config [target] shelf).Subsingleton := by
  have hread : ∀ bytes ∈ contentsNear host env inv config [target] shelf,
      host.read shelf target.absolute = .ok bytes := by
    rintro bytes ⟨t, ht, hbytes⟩
    obtain rfl := List.mem_singleton.mp ht
    rcases hbytes with hbytes | ⟨r, -, program, -, -, hbytes⟩
    · exact hbytes
    · rwa [perform_eq, after_of_ended h] at hbytes
  intro x hx y hy
  exact Except.ok.inj ((hread x hx).symm.trans (hread y hy))

section Unchanged

variable {shelf : Shelf} (h : ∀ entry ∈ shelf, endLine entry.2 = entry.2) {env : Environment}
  {plan : Plan} {s : Session Shelf} (hs : s.machine = shelf)

include h hs

lemma unchanged_invoke (planned : PlannedLinter) (target : Target) :
    (plan.invoke host env planned target s).1.changed = false ∧
      (plan.invoke host env planned target s).2.machine = shelf := by
  have hmachine : (plan.invoke host env planned target s).2.machine = shelf := by
    cases hread : host.read s.machine target.absolute with
    | error reason => rw [Plan.invoke_of_unreadable hread, hs]
    | ok bytes =>
      rw [Plan.invoke_of_readable hread]
      simp [Session.run_eq_await, perform_eq, hs, after_of_ended h]
  have hcontent : Plan.content? host target (plan.invoke host env planned target s).2 =
      Plan.content? host target s := by
    rw [Plan.content?, Plan.content?, hmachine, hs]
  have hlink := Plan.link_invoke fun x y (hx : Plan.content? host target s = some x) hy _ =>
    Option.some.inj (hx.symm.trans (hcontent.symm.trans hy))
  exact ⟨hlink.changed_eq_false_iff.mpr hcontent, hmachine⟩

lemma unchanged_invokeAll (target : Target) (linters : List PlannedLinter) :
    (∀ result ∈ (plan.invokeAll host env target linters s).1, result.changed = false) ∧
      (plan.invokeAll host env target linters s).2.machine = shelf := by
  induction linters generalizing s with
  | nil => exact ⟨List.forall_mem_nil _, hs⟩
  | cons planned rest ih =>
    obtain ⟨hfirst, hmachine⟩ := unchanged_invoke h hs planned target
    obtain ⟨hothers, hlast⟩ := ih hmachine
    exact ⟨List.forall_mem_cons.mpr ⟨hfirst, hothers⟩, hlast⟩

lemma unchanged_lintFiles (targets : List Target) :
    ∀ file ∈ (plan.lintFiles host env targets s).1, file.changed = false := by
  induction targets generalizing s with
  | nil => exact List.forall_mem_nil _
  | cons target rest ih =>
    obtain ⟨hfirst, hmachine⟩ := unchanged_invokeAll h hs target (plan.lintersFor target)
    refine List.forall_mem_cons.mpr ⟨?_, ih hmachine⟩
    simpa [FileReport.changed] using hfirst

end Unchanged

end Shelf

namespace Setting

/-- A file on a shelf that ends with a line feed is linted twice, and nothing happens. -/
theorem relint_shelf :
    let a : Shelf := [("pyproject.toml", "[tool.lint]\n"), ("a.py", "x = 1\n")]
    let inv : Invocation := ⟨Shelf.directory, [⟨"a.py"⟩], false, none, none⟩
    let b := (Shelf.setting.run inv ⟨.begin a, ""⟩).2.session.machine
    (Shelf.setting.run inv ⟨.begin b, ""⟩).2.out =
      (Shelf.setting.run inv ⟨.begin a, ""⟩).2.out := by
  intro a inv b
  have hb : (Shelf.setting.run inv ⟨.begin a, ""⟩).2.session.machine = b := rfl
  clear_value b
  let s := Session.begin a
  let target : Target := ⟨⟨"a.py"⟩, ⟨"/shelf/a.py"⟩⟩
  have hended : ∀ entry ∈ a, Shelf.endLine entry.2 = entry.2 := by decide +kernel
  obtain ⟨config, hconfig, hcheck⟩ : ∃ config, Shelf.setting.configured inv a = .ok config ∧
      (config.jobs?.isNone && (Shelf.setting.bootstrapped inv config s).1.isSuccess &&
        decide ((Shelf.setting.bootstrapped inv config s).2.machine = a) &&
        decide (Shelf.setting.FindsOnly inv config a target)) = true :=
    exists_ok_of_check (by decide +kernel)
  simp only [Bool.and_eq_true, decide_eq_true_eq, Option.isNone_iff_eq_none] at hcheck
  obtain ⟨⟨⟨hjobs, hsuccess⟩, hmachine⟩, hfound⟩ := hcheck
  have hselected : Shelf.setting.selected inv config a = [target] := hfound.selected_eq
  have hcountable : Plan.Countable config.jobs? := hjobs ▸ Plan.countable_none
  have hrun : (Shelf.setting.lint inv ⟨s, ""⟩).1 =
      .ok ⟨(Shelf.setting.bootstrapped inv config s).1, Shelf.setting.linted inv config s⟩ := by
    rw [lint_of_reliable Writer.reliable_collect]
    exact finding_of_available hconfig (.inl (by simp [s, Session.begin, hselected])) hcountable
      (isSuccess_iff_allAvailable.mp hsuccess)
  have hdigest := Shelf.subsingleton_contentsNear hended Shelf.setting.env inv config target
  rw [← hselected] at hdigest
  have hready : (Shelf.setting.ready inv config s).machine = a := hmachine
  have hsame : ∀ file ∈ Shelf.setting.linted inv config s, file.changed = false :=
    Shelf.unchanged_lintFiles hended hready _
  exact (relint (Shelf.repeatable hended _ _ _ _) (hdigest.injOn _) hconfig hrun hsame
    hb).2.2.2.2.2.1

end Setting

end LintChain

import LintChain.Proofs.Invocation
import LintChain.Proofs.Roster

/-!
What a run comes to. Unless the writer refuses something, this depends on the machine alone: the
configuration, the files, the probes and the results decide in this order.
-/

namespace LintChain

lemma BootstrapReport.isSuccess_iff_forall₂ {report : BootstrapReport}
    {linters : List ResolvedLinter}
    (h : report.results.map (·.linter) = linters.map (·.linter)) :
    report.isSuccess ↔ List.Forall₂ (fun (r : ResolvedLinter) (probed : Probed) =>
      probed.linter = r.linter ∧ probed.outcome.isAvailable) linters report.results := by
  obtain ⟨results⟩ := report
  simp only [isSuccess] at h ⊢
  induction linters generalizing results with
  | nil => simp_all
  | cons r linters ih =>
    cases results with
    | nil => simp at h
    | cons probed results =>
      obtain ⟨hhead, htail⟩ := List.cons.inj h
      simp [hhead, ih results htail]

namespace Setting

variable {σ ω α β : Type} (m : Setting σ ω) (inv : Invocation)

/-- The stage comes to `r` and leaves the session `s`, unless a write is refused. -/
def Yields (x : Stage σ ω α) (p : Progress σ ω) (r : Except LintError α) (s : Session σ) : Prop :=
  (∃ out, x p = (r, ⟨s, out⟩)) ∨ ¬ m.writer.Reliable ∧ ∃ e q, x p = (.error (.write e), q)

/-- What the probes come to, once the files are known. -/
def bootstrapped (config : Config) (s : Session σ) : BootstrapReport × Session σ :=
  m.probed inv config (m.prepared inv config s)

/-- The session in which the work on the files begins. -/
def ready (config : Config) (s : Session σ) : Session σ :=
  engaged inv config (m.bootstrapped inv config s).1 (m.bootstrapped inv config s).2

/-- The probe of every enabled linter, in canonical order, found a usable tool. -/
def AllAvailable (config : Config) (s : Session σ) : Prop :=
  List.Forall₂ (fun (r : ResolvedLinter) (probed : Probed) =>
    probed.linter = r.linter ∧ probed.outcome.isAvailable)
    config.enabledLinters (m.bootstrapped inv config s).1.results

/-- What the chain comes to on the files. -/
def executed (config : Config) (s : Session σ) : Except TooManyWorkers (List FileReport) :=
  ((plan inv config (m.bootstrapped inv config s).1).execute m.host m.env
    (m.selected inv config s.machine) (m.ready inv config s)).1

/-- The reports on the files, once the tools can be used. -/
def linted (config : Config) (s : Session σ) : List FileReport :=
  ((plan inv config (m.bootstrapped inv config s).1).lintFiles m.host m.env
    (m.selected inv config s.machine) (m.ready inv config s)).1

/-- What a run comes to when no write is refused. -/
def finding (s : Session σ) : Except LintError RunReport :=
  match m.configured inv s.machine with
  | .error e => .error (.config e)
  | .ok config =>
    let report := (m.bootstrapped inv config s).1
    if (m.selected inv config s.machine).isEmpty && !inv.bootstrap then .ok .empty
    else if report.isSuccess then
      if (m.selected inv config s.machine).isEmpty then .ok ⟨report, []⟩
      else ((m.executed inv config s).mapError .workers).map (RunReport.mk report)
    else .error (.bootstrap report)

variable {m inv}

namespace Yields

variable {x : Stage σ ω α} {f : α → Stage σ ω β} {p : Progress σ ω} {a : α} {e : LintError}
  {s t : Session σ} {r : Except LintError β}

lemma of_eq {out : ω} {r : Except LintError α} (h : x p = (r, ⟨s, out⟩)) : m.Yields x p r s :=
  .inl ⟨out, h⟩

lemma congr {y : Stage σ ω α} {q : Progress σ ω} {r : Except LintError α}
    (hy : m.Yields y q r s) (h : x p = y q) : m.Yields x p r s := by
  unfold Yields
  rwa [h]

lemma bind (hx : m.Yields x p (.ok a) s) (hf : ∀ out, m.Yields (f a) ⟨s, out⟩ r t) :
    m.Yields (x >>= f) p r t := by
  rcases hx with ⟨out, hx⟩ | ⟨hunreliable, e, q, hx⟩
  · exact (hf out).congr (Stage.bind_of_ok hx)
  · exact .inr ⟨hunreliable, e, q, Stage.bind_of_error hx⟩

lemma bind_error (hx : m.Yields x p (.error e) s) : m.Yields (x >>= f) p (.error e) s := by
  rcases hx with ⟨out, hx⟩ | ⟨hunreliable, e, q, hx⟩
  · exact .inl ⟨out, Stage.bind_of_error hx⟩
  · exact .inr ⟨hunreliable, e, q, Stage.bind_of_error hx⟩

variable (m) in
lemma writing {act : ω → Except WriteError Unit × ω}
    (h : m.writer.Reliable → ∀ out, (act out).1 = .ok ()) (p : Progress σ ω) :
    m.Yields (Setting.writing act) p (.ok ()) p.session := by
  rcases hact : act p.out with ⟨e | _, out⟩
  · refine .inr ⟨fun hreliable => ?_, e, _, by simp only [Setting.writing, hact]; rfl⟩
    have := h hreliable p.out
    simp [hact] at this
  · exact .of_eq (by simp only [Setting.writing, hact]; rfl)

lemma writeLines (lines : List Line) (p : Progress σ ω) :
    m.Yields (m.writeLines lines) p (.ok ()) p.session :=
  writing m (fun h => h.writeLines lines) p

lemma writeIf (wanted : Bool) (lines : List Line) (p : Progress σ ω) :
    m.Yields (m.writeIf wanted lines) p (.ok ()) p.session := by
  cases wanted with
  | false => exact .of_eq rfl
  | true => exact .writeLines lines p

end Yields

variable {p : Progress σ ω} {config : Config} {report : BootstrapReport} {targets : List Target}

lemma yields_bootstrap {s : Session σ} (h : (m.probed inv config s).1.isSuccess) (out : ω) :
    m.Yields (m.bootstrap inv config) ⟨s, out⟩ (.ok (m.probed inv config s).1)
      (m.probed inv config s).2 :=
  .of_eq (by rw [bootstrap_apply, if_pos h])

lemma yields_bootstrap_error {s : Session σ} (h : ¬ (m.probed inv config s).1.isSuccess)
    (out : ω) :
    m.Yields (m.bootstrap inv config) ⟨s, out⟩ (.error (.bootstrap (m.probed inv config s).1))
      (m.probed inv config s).2 :=
  .of_eq (by rw [bootstrap_apply, if_neg h])

lemma yields_lintTargets {s t : Session σ} {r : Except TooManyWorkers (List FileReport)}
    (h : (plan inv config report).execute m.host m.env targets (engaged inv config report s) =
      (r, t)) (out : ω) :
    m.Yields (m.lintTargets inv config report targets) ⟨s, out⟩ (r.mapError .workers) t :=
  .of_eq (lintTargets_of_execute h)

lemma yields_lintListed (s : Session σ) : ∃ t, ∀ out,
    m.Yields (m.lintListed inv config targets report) ⟨s, out⟩
      (if targets.isEmpty then .ok ⟨report, []⟩
        else (((plan inv config report).execute m.host m.env targets
          (engaged inv config report s)).1.mapError .workers).map (RunReport.mk report)) t := by
  cases targets with
  | nil => exact ⟨s, fun _ => .bind (.writeLines _ _) fun _ => .of_eq rfl⟩
  | cons target rest =>
    rcases hexecute : (plan inv config report).execute m.host m.env (target :: rest)
      (engaged inv config report s) with ⟨e | files, t⟩ <;>
      have htargets := fun out : ω => yields_lintTargets hexecute out
    · exact ⟨t, fun _ => .bind (.writeLines _ _) fun _ => .bind_error (htargets _)⟩
    · refine ⟨t, fun _ => .bind (.writeLines _ _) fun _ => .bind (htargets _) fun _ => ?_⟩
      exact .bind (.writeLines _ _) fun _ => .bind (.writing m (fun h => h.flush) _) fun _ =>
        .of_eq rfl

/-- **Only the machine decides**, unless a write is refused. -/
theorem yields_lint (inv : Invocation) (p : Progress σ ω) :
    ∃ s, m.Yields (m.lint inv) p (m.finding inv p.session) s := by
  unfold finding
  cases hconfig : m.configured inv p.session.machine with
  | error e => exact ⟨_, .of_eq (lint_of_error hconfig)⟩
  | ok config =>
    dsimp only
    split
    next hidle =>
      refine ⟨m.prepared inv config p.session,
        .congr ?_ ((lint_of_ok hconfig).trans (congrFun (if_pos hidle) _))⟩
      exact .bind (.writeLines _ _) fun _ => .of_eq rfl
    next hbusy =>
      have hlint := (lint_of_ok hconfig).trans (congrFun (if_neg hbusy) _)
      rw [lintDiscovered_eq] at hlint
      split
      next hsuccess =>
        obtain ⟨s, hs⟩ := yields_lintListed (m.bootstrapped inv config p.session).2
        refine ⟨s, .congr ?_ hlint⟩
        exact .bind (.writeIf _ _ _) fun _ => .bind (yields_bootstrap hsuccess _) fun _ =>
          .bind (.writeIf _ _ _) hs
      next hfailure =>
        refine ⟨(m.bootstrapped inv config p.session).2, .congr ?_ hlint⟩
        exact .bind (.writeIf _ _ _) fun _ => .bind_error (yields_bootstrap_error hfailure _)

lemma lint_of_reliable (h : m.writer.Reliable) (inv : Invocation) (p : Progress σ ω) :
    (m.lint inv p).1 = m.finding inv p.session := by
  obtain ⟨s, ⟨out, hlint⟩ | ⟨hunreliable, -⟩⟩ := m.yields_lint inv p
  · rw [hlint]
  · exact absurd h hunreliable

lemma finding_of_lint {run : RunReport} (h : (m.lint inv p).1 = .ok run) :
    m.finding inv p.session = .ok run := by
  obtain ⟨s, ⟨out, hlint⟩ | ⟨-, e, q, hlint⟩⟩ := m.yields_lint inv p
  · rw [← h, hlint]
  · rw [hlint] at h
    cases h

/-! ### The cases -/

lemma isSuccess_iff_allAvailable {s : Session σ} :
    (m.bootstrapped inv config s).1.isSuccess ↔ m.AllAvailable inv config s :=
  BootstrapReport.isSuccess_iff_forall₂ (Bootstrap.map_linter_probeAll _)

lemma executed_of_countable (h : Plan.Countable config.jobs?) (s : Session σ) :
    m.executed inv config s = .ok (m.linted inv config s) :=
  congrArg Prod.fst (Plan.execute_of_countable h)

section Finding

variable {s : Session σ} (hconfig : m.configured inv s.machine = .ok config)

include hconfig

lemma finding_of_idle (hnone : m.selected inv config s.machine = [])
    (hflag : inv.bootstrap = false) : m.finding inv s = .ok .empty := by
  simp [finding, hconfig, hnone, hflag]

lemma executed_of_finding (hsome : m.selected inv config s.machine ≠ []) {run : RunReport}
    (h : m.finding inv s = .ok run) : m.executed inv config s = .ok run.files := by
  simp only [finding, hconfig, List.isEmpty_eq_false_iff.mpr hsome, Bool.false_and,
    Bool.false_eq_true, if_false] at h
  split at h
  · cases hexecuted : m.executed inv config s with
    | error e => simp [hexecuted, Except.mapError, Except.map] at h
    | ok files =>
      simp only [hexecuted, Except.mapError, Except.map, Except.ok.injEq] at h
      rw [← h]
  · cases h

variable (hbusy : m.selected inv config s.machine ≠ [] ∨ inv.bootstrap = true)

include hbusy

lemma finding_of_available (hjobs : Plan.Countable config.jobs?)
    (havailable : m.AllAvailable inv config s) :
    m.finding inv s = .ok ⟨(m.bootstrapped inv config s).1, m.linted inv config s⟩ := by
  have hsuccess := isSuccess_iff_allAvailable.mpr havailable
  have hexecuted : m.executed inv config s = _ := executed_of_countable hjobs s
  by_cases hnone : m.selected inv config s.machine = []
  · have hflag := hbusy.resolve_left (not_not_intro hnone)
    simp [finding, hconfig, hnone, hflag, hsuccess, linted, Plan.lintFiles]
  · simp [finding, hconfig, hnone, hsuccess, hexecuted, Except.mapError, Except.map]

lemma finding_of_unavailable (h : ¬ m.AllAvailable inv config s) :
    m.finding inv s = .error (.bootstrap (m.bootstrapped inv config s).1) := by
  have hfailure := mt isSuccess_iff_allAvailable.mp h
  rcases hbusy with hsome | hflag
  · simp [finding, hconfig, hsome, hfailure]
  · simp [finding, hconfig, hflag, hfailure]

end Finding

end Setting

end LintChain

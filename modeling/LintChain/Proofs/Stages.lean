import LintChain.Run
import Mathlib.Tactic.Common

/-!
The stages of a run. What a stage finds out and does to the session depends on the session alone,
and is a function here; what it writes depends on the writer alone. A run puts them one after the
other until one of them ends it.
-/

namespace LintChain

variable {σ ω α β : Type}

/-! ### Stages one after the other -/

namespace Stage

variable {x : Stage σ ω α} {f : α → Stage σ ω β} {p q : Progress σ ω} {a : α} {e : LintError}

lemma bind_of_ok (h : x p = (.ok a, q)) : (x >>= f) p = f a q := by
  show ExceptT.bind x f p = _
  simp only [ExceptT.bind, ExceptT.mk, bind, StateT.bind]
  rw [h]
  rfl

lemma bind_of_error (h : x p = (.error e, q)) : (x >>= f) p = (.error e, q) := by
  show ExceptT.bind x f p = _
  simp only [ExceptT.bind, ExceptT.mk, bind, StateT.bind]
  rw [h]
  rfl

lemma bind_eq (x : Stage σ ω α) (f : α → Stage σ ω β) (p : Progress σ ω) :
    (x >>= f) p = match x p with
      | (.ok a, q) => f a q
      | (.error e, q) => (.error e, q) := by
  rcases h : x p with ⟨e | a, q⟩
  · exact bind_of_error h
  · exact bind_of_ok h

lemma tryCatch_of_ok {f : LintError → Stage σ ω α} (h : x p = (.ok a, q)) :
    (tryCatch x f) p = (.ok a, q) := by
  show ExceptT.tryCatch x f p = _
  simp only [ExceptT.tryCatch, ExceptT.mk, bind, StateT.bind]
  rw [h]
  rfl

lemma tryCatch_of_error {f : LintError → Stage σ ω α} (h : x p = (.error e, q)) :
    (tryCatch x f) p = f e q := by
  show ExceptT.tryCatch x f p = _
  simp only [ExceptT.tryCatch, ExceptT.mk, bind, StateT.bind]
  rw [h]

@[simp] lemma pure_apply (a : α) (p : Progress σ ω) : (pure a : Stage σ ω α) p = (.ok a, p) := rfl

end Stage

/-- A writer that refuses nothing. -/
structure Writer.Reliable (writer : Writer ω) : Prop where
  write (text : String) (out : ω) : (writer.write text out).1 = .ok ()
  flush (out : ω) : (writer.flush out).1 = .ok ()

lemma Writer.reliable_collect : Writer.collect.Reliable := ⟨fun _ _ => rfl, fun _ => rfl⟩

namespace Writer.Reliable

variable {writer : Writer ω} (h : writer.Reliable)

include h

lemma writePieces (pieces : List String) (out : ω) :
    (writer.writePieces pieces out).1 = .ok () := by
  induction pieces generalizing out with
  | nil => rfl
  | cons piece rest ih =>
    have hw := h.write piece out
    rcases hout : writer.write piece out with ⟨result, out'⟩
    rw [hout] at hw
    obtain rfl : result = .ok () := hw
    simpa [Writer.writePieces, hout] using ih out'

lemma writeLines (lines : List Line) (out : ω) : (writer.writeLines lines out).1 = .ok () := by
  induction lines generalizing out with
  | nil => rfl
  | cons line rest ih =>
    have hw := h.writePieces (line.pieces ++ ["\n"]) out
    rcases hout : writer.writeLine line out with ⟨result, out'⟩
    rw [← Writer.writeLine, hout] at hw
    obtain rfl : result = .ok () := hw
    simpa [Writer.writeLines, hout] using ih out'

end Writer.Reliable

/-! ### What the stages find out -/

namespace Setting

variable (m : Setting σ ω) (inv : Invocation)

/-- The configuration that an invocation works under. -/
def configured (state : σ) : Except ConfigError Config :=
  (Config.resolve m.host state m.env inv.cwd).2.map fun config =>
    { config with jobs? := inv.jobs?.orElse fun _ => config.jobs? }

/-- The session once the configuration has been looked for. -/
def searched (s : Session σ) : Session σ :=
  s.warn (Config.resolve m.host s.machine m.env inv.cwd).1

/-- The files that an invocation is about. -/
def selected (config : Config) (state : σ) : List Target :=
  (Discovery.discover m.host state config inv.cwd inv.paths).1

/-- The session once the files are known. -/
def prepared (config : Config) (s : Session σ) : Session σ :=
  (m.searched inv s).warn (Discovery.discover m.host s.machine config inv.cwd inv.paths).2

/-- The outcomes of the probes, and the session after them. -/
def probed (config : Config) (s : Session σ) : BootstrapReport × Session σ :=
  Bootstrap.run m.host m.env (probeSettings inv config) config s

/-- The chain that works on the files after a bootstrap. -/
def plan (config : Config) (report : BootstrapReport) : Plan :=
  (Plan.ofBootstrap config inv.cwd report).1

/-- The session when the work on the files begins. -/
def engaged (config : Config) (report : BootstrapReport) (s : Session σ) : Session σ :=
  s.warn (Plan.ofBootstrap config inv.cwd report).2

/-! ### What the stages come to -/

variable {m inv} {p : Progress σ ω} {config : Config} {report : BootstrapReport}
  {targets : List Target} {lines : List Line}

lemma bind_working (act : Session σ → α × Session σ) (f : α → Stage σ ω β) (p : Progress σ ω) :
    (working act >>= f) p =
      f (act p.session).1 { p with session := (act p.session).2 } :=
  Stage.bind_of_ok rfl

lemma writeLines_apply : m.writeLines lines p =
    ((m.writer.writeLines lines p.out).1.mapError .write,
      { p with out := (m.writer.writeLines lines p.out).2 }) := rfl

lemma flush_apply : m.flush p =
    ((m.writer.flush p.out).1.mapError .write, { p with out := (m.writer.flush p.out).2 }) := rfl

lemma resolveConfig_apply : m.resolveConfig inv p =
    ((m.configured inv p.session.machine).mapError .config,
      { p with session := m.searched inv p.session }) := by
  unfold resolveConfig configured searched
  rw [bind_working]
  rcases Config.resolve m.host p.session.machine m.env inv.cwd with ⟨warnings, _ | config⟩ <;> rfl

lemma discover_apply : m.discover inv config { p with session := m.searched inv p.session } =
    (.ok (m.selected inv config p.session.machine),
      { p with session := m.prepared inv config p.session }) := rfl

lemma bootstrap_apply : m.bootstrap inv config p =
    (if (m.probed inv config p.session).1.isSuccess then .ok (m.probed inv config p.session).1
      else .error (.bootstrap (m.probed inv config p.session).1),
      { p with session := (m.probed inv config p.session).2 }) := by
  unfold bootstrap probed
  rw [bind_working]
  split <;> rfl

lemma lintTargets_of_execute {r : Except TooManyWorkers (List FileReport)} {t : Session σ}
    (h : (plan inv config report).execute m.host m.env targets
      (engaged inv config report p.session) = (r, t)) :
    m.lintTargets inv config report targets p =
      (r.mapError .workers, { p with session := t }) := by
  unfold lintTargets
  rw [bind_working]
  unfold plan engaged at h
  rcases hplan : Plan.ofBootstrap config inv.cwd report with ⟨plan, warnings⟩
  rw [hplan] at h
  simp only at h ⊢
  rw [h]
  cases r <;> rfl

lemma lint_of_error {e : ConfigError} (h : m.configured inv p.session.machine = .error e) :
    m.lint inv p = (.error (.config e), { p with session := m.searched inv p.session }) := by
  unfold lint
  rw [Stage.bind_of_error (by rw [resolveConfig_apply, h]; rfl)]

lemma lint_of_ok (h : m.configured inv p.session.machine = .ok config) :
    m.lint inv p =
      (if (m.selected inv config p.session.machine).isEmpty && !inv.bootstrap then
        (do m.writeTargets (m.selected inv config p.session.machine); return .empty)
      else m.lintDiscovered inv config (m.selected inv config p.session.machine) :
        Stage σ ω RunReport) { p with session := m.prepared inv config p.session } := by
  unfold lint
  rw [Stage.bind_of_ok (by rw [resolveConfig_apply, h]; rfl), Stage.bind_of_ok discover_apply]

/-! ### A run as a row of stages -/

variable (m) in
/-- Writes only if it is wanted. -/
def writeIf (wanted : Bool) (lines : List Line) : Stage σ ω Unit :=
  if wanted then m.writeLines lines else pure ()

variable (m) in
/-- The last stage with a report. -/
def writeResults (run : RunReport) : Stage σ ω RunReport := do
  m.writeLines (Report.runLines run)
  m.flush
  return run

variable (m inv) in
/-- What comes after the bootstrap. -/
def lintListed (config : Config) (targets : List Target) (report : BootstrapReport) :
    Stage σ ω RunReport := do
  m.writeTargets targets
  if targets.isEmpty then return ⟨report, []⟩
  else
    let files ← m.lintTargets inv config report targets
    m.writeResults ⟨report, files⟩

variable (m) in
/-- What comes after the chain has been run. -/
def conclude : Except LintError RunReport → Stage σ ω Nat
  | .ok run => pure run.exitCode
  | .error (.workers e) => throw (.workers e)
  | .error e => do
    m.writeLines (closingLines e)
    return 1

lemma lintDiscovered_eq : m.lintDiscovered inv config targets = (do
    m.writeIf inv.bootstrap (Report.progressLines (config.enabledLinters.map (·.linter)))
    let report ← m.bootstrap inv config
    m.writeIf inv.bootstrap [.ofText Report.bootstrapSucceeded]
    m.lintListed inv config targets report) := by
  unfold lintDiscovered writeIf
  cases inv.bootstrap <;> rfl

/-- A run that has nothing to do. -/
lemma lint_of_idle (h : m.configured inv p.session.machine = .ok config)
    (hnone : m.selected inv config p.session.machine = []) (hflag : inv.bootstrap = false) :
    m.lint inv p = (do m.writeTargets []; return .empty : Stage σ ω RunReport)
      { p with session := m.prepared inv config p.session } := by
  have hidle : ((m.selected inv config p.session.machine).isEmpty && !inv.bootstrap) = true := by
    simp [hnone, hflag]
  rw [lint_of_ok h, if_pos hidle, hnone]

/-- A run that begins with the probes. -/
lemma lint_of_busy (h : m.configured inv p.session.machine = .ok config)
    (hbusy : m.selected inv config p.session.machine ≠ [] ∨ inv.bootstrap = true) :
    m.lint inv p = m.lintDiscovered inv config (m.selected inv config p.session.machine)
      { p with session := m.prepared inv config p.session } := by
  have hbusy' : ¬ ((m.selected inv config p.session.machine).isEmpty && !inv.bootstrap) = true := by
    simpa [or_iff_not_imp_left] using hbusy
  rw [lint_of_ok h, if_neg hbusy']

lemma run_apply : m.run inv p = m.conclude (m.lint inv p).1 (m.lint inv p).2 := by
  unfold run
  rcases h : m.lint inv p with ⟨e | run, q⟩
  · rw [Stage.bind_eq, Stage.tryCatch_of_error (Stage.bind_of_error h)]
    cases e with
    | workers e => rfl
    | _ =>
      simp only [conclude, Stage.bind_eq]
      rcases m.writeLines _ q with ⟨_ | _, q'⟩ <;> rfl
  · exact Eq.trans (Stage.bind_of_ok (Stage.tryCatch_of_ok (Stage.bind_of_ok h))) rfl

end Setting

end LintChain

import LintChain.Proofs.Attempts
import LintChain.Proofs.Shelf

/-!
A tool that never works. The counter of its probes stops at the number of retries, whatever number a
manifest sets, and so the probes are one more. The number of attempts that is told has 32 bits too:
it is the number of the probes, unless the retries are as many as 32 bits can tell.
-/

namespace LintChain

/-- One more than the largest number of 32 bits is 0 again. -/
lemma UInt32.toNat_add_one (n : UInt32) :
    (n + 1).toNat = if n.toNat + 1 < UInt32.size then n.toNat + 1 else 0 := by
  have hn := n.toNat_lt_size
  have hsum : (n + 1).toNat = (n.toNat + 1) % UInt32.size := UInt32.toNat_add n 1
  rw [hsum]
  split
  next hlt => exact Nat.mod_eq_of_lt hlt
  next hge =>
    obtain hlast : n.toNat + 1 = UInt32.size := by omega
    rw [hlast, Nat.mod_self]

namespace Bootstrap

open Probe (Succeeds Blames)

variable {σ : Type} {host : Host σ} {command : Command} {policy : RetryPolicy} {state : σ}
  {journal : List Event} {env : Environment} {settings : ProbeSettings} {linter : ResolvedLinter}
  {program : Path} {s : Session σ}

/-- No probe succeeds, up to the last one that a policy allows. -/
def Exhausts (host : Host σ) (command : Command) (policy : RetryPolicy) (state : σ) : Prop :=
  ∀ i ≤ policy.retries.toNat, ¬ Succeeds (resultAt host command policy state i)

/-- The counter ends at the number of retries. -/
lemma probeUntil_of_exhausts (h : Exhausts host command policy state) :
    probeUntil host command policy policy.retries.toNat 0 ⟨state, journal⟩ =
      (.ofResult (resultAt host command policy state policy.retries.toNat), policy.retries,
        ⟨(host.perform command (machineAt host command policy state policy.retries.toNat)).2,
          journal ++ rounds command policy 0 policy.retries.toNat⟩) := by
  obtain ⟨n, hends, hloop⟩ :=
    probeUntil_eq host command policy state policy.retries.toNat 0 journal
  simp only [Nat.zero_add] at hends hloop
  obtain rfl : n = policy.retries.toNat := hends.eq_of_none h
  rw [UInt32.ofNat_toNat] at hloop
  exact hloop

/-- What a tool that fetches parts of itself comes to when no probe succeeds. -/
lemma probeLinter_of_exhausts (hnetwork : linter.spec.networkBootstrap = true)
    (hfound : Executable.find? host s.machine env settings.searchPath? settings.cwd
      linter.executable = some program)
    (hfails : Exhausts host (Course.probeCommand env settings linter program) settings.retry
      s.machine) :
    let command := Course.probeCommand env settings linter program
    let retries := settings.retry.retries
    ∃ fault,
      Blames (resultAt host command settings.retry s.machine retries.toNat) fault ∧
      (probeLinter host env settings linter s).1.outcome =
        .transientFailure (retries + 1) fault ∧
      (probeLinter host env settings linter s).2.started =
        s.started ++ List.replicate (retries.toNat + 1) command := by
  intro command retries
  obtain ⟨n, hends, hprobes⟩ := probeLinter_eq hfound
  -- no probe ends the loop, so it ends where the policy does
  rw [retries_of_network hnetwork] at hends
  obtain rfl : n = retries.toNat := hends.eq_of_none hfails
  obtain ⟨fault, hblames, htold, -⟩ :=
    (decided_probeResult linter program _ (.ofNat retries.toNat)).of_failure
      (hfails retries.toNat (Nat.le_refl _))
  refine ⟨fault, hblames, ?_, ?_⟩
  · rw [hprobes, htold hnetwork, UInt32.ofNat_toNat]
  · rw [hprobes, Session.started_warn, started_rounds, Session.started_warn]

/-- **The attempts that are told of a tool that never works**, for every number of retries. The
counter of the loop ends at that number, and the probe has been started once more. This is the
number that is told if 32 bits can tell it. The one number of retries that leaves no room for one
more makes it 0. -/
theorem attempts_of_exhausts (hnetwork : linter.spec.networkBootstrap = true)
    (hfound : Executable.find? host s.machine env settings.searchPath? settings.cwd
      linter.executable = some program)
    (hfails : Exhausts host (Course.probeCommand env settings linter program) settings.retry
      s.machine) :
    let command := Course.probeCommand env settings linter program
    let policy := settings.retry
    let probes := policy.retries.toNat + 1
    (probeUntil host command policy policy.retries.toNat 0
        (s.warn (env.toolVariables linter.linter).2)).2.1 = policy.retries ∧
      (probeLinter host env settings linter s).2.started =
        s.started ++ List.replicate probes command ∧
      ∃ attempts fault,
        (probeLinter host env settings linter s).1.outcome = .transientFailure attempts fault ∧
        Blames (resultAt host command policy s.machine policy.retries.toNat) fault ∧
        attempts.toNat = if probes < UInt32.size then probes else 0 := by
  intro command policy probes
  obtain ⟨fault, hblames, houtcome, hstarted⟩ := probeLinter_of_exhausts hnetwork hfound hfails
  have hcounter : probeUntil host command policy policy.retries.toNat 0
      (s.warn (env.toolVariables linter.linter).2) = _ := probeUntil_of_exhausts hfails
  exact ⟨congrArg (·.2.1) hcounter, hstarted, _, fault, houtcome, hblames,
    UInt32.toNat_add_one policy.retries⟩

end Bootstrap

/-! ### A machine where nothing works -/

namespace Shelf

open Bootstrap (Exhausts)

/-- The machine with programs that all end with code 1 and leave everything as it is. -/
def failing : Host Shelf :=
  { host with
    run := fun _ shelf => (.ok ⟨some 1, "", ""⟩, shelf)
    runWithin := fun _ _ shelf => (.ok (some ⟨some 1, "", ""⟩), shelf) }

lemma perform_failing (command : Command) (shelf : Shelf) :
    failing.perform command shelf = (.ok ⟨some 1, "", ""⟩, shelf) := by
  unfold Host.perform
  cases command.timeout? <;> rfl

lemma exhausts_failing (command : Command) (policy : RetryPolicy) (shelf : Shelf) :
    Exhausts failing command policy shelf := by
  intro i _
  simp [Bootstrap.resultAt, perform_failing, Probe.Succeeds]

lemma fault_of_failing {command : Command} {policy : RetryPolicy} {shelf : Shelf} {i : ℕ}
    {fault : Fault} (h : Probe.Blames (Bootstrap.resultAt failing command policy shelf i) fault) :
    fault = .exited 1 := by
  rw [Bootstrap.resultAt, perform_failing] at h
  cases h <;> simp_all

end Shelf

namespace Bootstrap

open LintChain.Shelf (failing exhausts_failing fault_of_failing)

/-- With two retries the tool is probed three times. -/
theorem attempts_of_exhausts_shelf :
    let shelf : Session Shelf := .begin []
    let linter : ResolvedLinter := .ofSpec Linter.pyright.spec
    let settings : ProbeSettings := ⟨Shelf.directory, none, ⟨2, .ofMillis 0, .ofMillis 0⟩, none⟩
    let env := Shelf.setting.env
    linter.spec.networkBootstrap = true ∧
      Executable.find? failing shelf.machine env none Shelf.directory linter.executable =
        some ⟨"/bin/pyright"⟩ ∧
      ((probeLinter failing env settings linter shelf).2.started).length = 3 ∧
      ∃ attempts fault, attempts.toNat = 3 ∧
        (probeLinter failing env settings linter shelf).1.outcome =
          .transientFailure attempts fault := by
  intro shelf linter settings env
  have hnetwork : linter.spec.networkBootstrap = true := by decide
  have hfound : Executable.find? failing shelf.machine env none Shelf.directory linter.executable =
      some ⟨"/bin/pyright"⟩ := by decide +kernel
  obtain ⟨-, hstarted, attempts, fault, houtcome, -, hattempts⟩ :=
    attempts_of_exhausts hnetwork hfound
      (exhausts_failing (Course.probeCommand env settings linter ⟨"/bin/pyright"⟩) settings.retry
        shelf.machine)
  refine ⟨hnetwork, hfound, ?_, attempts, fault, hattempts, houtcome⟩
  rw [hstarted]
  rfl

/-- A manifest that keeps one tool that fetches parts of itself, and sets the largest number of
retries. -/
def largestRetries : String :=
  "[tool.lint]\nisort = {enabled = false}\nblack = {enabled = false}\n" ++
    "pyupgrade = {enabled = false}\nflake8 = {enabled = false}\nprospector = {enabled = false}\n" ++
    "[tool.lint.bootstrap]\nretries = 4294967295\nbackoff_ms = 0\n"

/-- With the largest number of retries a manifest can set, the tool that never works is probed once
more than 32 bits can tell, and is reported with 0 attempts. -/
theorem attempts_of_exhausts_max :
    let s : Session Shelf := .begin []
    ∃ config, (Config.parse ⟨"/shelf/pyproject.toml"⟩ largestRetries).2 = .ok config ∧
      config.retry.retries.toNat = 4294967295 ∧
      let settings : ProbeSettings := ⟨Shelf.directory, none, config.retry, config.timeout?⟩
      (run failing Shelf.setting.env settings config s).1.results.map (·.outcome) =
          [.transientFailure 0 (.exited 1)] ∧
        (run failing Shelf.setting.env settings config s).2.started.length = 4294967296 := by
  intro s
  obtain ⟨config, hconfig, hcheck⟩ : ∃ config,
      (Config.parse ⟨"/shelf/pyproject.toml"⟩ largestRetries).2 = .ok config ∧
      (decide (config.retry.retries = 4294967295) &&
        decide (config.enabledLinters.map (fun r => (r.linter, r.executable)) =
          [(.pyright, "pyright")])) = true :=
    exists_ok_of_check (by decide +kernel)
  simp only [Bool.and_eq_true, decide_eq_true_eq] at hcheck
  obtain ⟨hretries, henabled⟩ := hcheck
  obtain ⟨linter, hlinters, hlinter⟩ := List.map_eq_singleton_iff.mp henabled
  obtain ⟨hname, hexecutable⟩ := Prod.mk.inj hlinter
  have hmax : config.retry.retries.toNat = 4294967295 := by
    rw [hretries]
    rfl
  refine ⟨config, hconfig, hmax, ?_⟩
  intro settings
  have hnetwork : linter.spec.networkBootstrap = true := by
    rw [ResolvedLinter.spec, hname]
    rfl
  have hfound : Executable.find? failing s.machine Shelf.setting.env none Shelf.directory
      linter.executable = some ⟨"/bin/pyright"⟩ := by
    rw [hexecutable]
    decide +kernel
  have hfails : Exhausts failing (Course.probeCommand Shelf.setting.env settings linter
      ⟨"/bin/pyright"⟩) settings.retry s.machine := exhausts_failing _ _ _
  obtain ⟨fault, hblames, houtcome, hstarted⟩ := probeLinter_of_exhausts hnetwork hfound hfails
  obtain rfl : fault = .exited 1 := fault_of_failing hblames
  have hresults : (run failing Shelf.setting.env settings config s) =
      (⟨[(probeLinter failing Shelf.setting.env settings linter s).1]⟩,
        (probeLinter failing Shelf.setting.env settings linter s).2) := by
    rw [run, hlinters]
    rfl
  rw [hresults]
  have hwrap : config.retry.retries + 1 = 0 := by
    rw [hretries]
    rfl
  refine ⟨?_, ?_⟩
  · rw [List.map_cons, List.map_nil, houtcome, hwrap]
  · -- the processes are counted without a list of them
    rw [hstarted, List.length_append, List.length_replicate, Session.started_begin, hmax]
    rfl

end Bootstrap

end LintChain

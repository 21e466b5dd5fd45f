import LintChain.Proofs.Backoff
import LintChain.Proofs.Replay

/-!
The probes of one tool. The machine decides what each of them would come to. A tool that fetches
parts of itself is probed up to the first success or until the retries are used up, with pauses that
grow up to a limit; any other tool is probed once. Only the last probe counts.
-/

namespace LintChain

variable {σ : Type}

/-! ### Pauses -/

namespace RetryPolicy

variable {policy : RetryPolicy} {n : ℕ}

/-- The pauses before the first `n` retries. -/
def delays (policy : RetryPolicy) (n : ℕ) : List Duration :=
  (List.range n).map fun i => policy.delay (.ofNat i)

lemma pairwise_delays (h : n ≤ UInt32.size) : (policy.delays n).Pairwise (· ≤ ·) := by
  rw [delays, List.pairwise_map]
  refine List.pairwise_lt_range.imp_of_mem fun {i j} hi hj hlt => delay_mono ?_
  -- none of the numbers is cut off at 32 bits
  have hi := Nat.lt_of_lt_of_le (List.mem_range.mp hi) h
  have hj := Nat.lt_of_lt_of_le (List.mem_range.mp hj) h
  rw [UInt32.le_iff_toNat_le, UInt32.toNat_ofNat_of_lt' hi, UInt32.toNat_ofNat_of_lt' hj]
  exact Nat.le_of_lt hlt

lemma le_maxBackoff_of_mem_delays {d : Duration} (h : d ∈ policy.delays n) :
    d ≤ policy.maxBackoff := by
  obtain ⟨i, -, rfl⟩ := List.mem_map.mp h
  exact delay_le_maxBackoff _

end RetryPolicy

/-! ### What a probe shows -/

namespace Probe

/-- The process ended with code 0. -/
def Succeeds (result : Except CommandError Output) : Prop :=
  ∃ output, result = .ok output ∧ output.code? = some 0

/-- What is wrong with a tool by the end of a probe. -/
inductive Blames : Except CommandError Output → Fault → Prop
  | exited {output : Output} {code : Int} (hcode : output.code? = some code) (hne : code ≠ 0) :
      Blames (.ok output) (.exited code)
  | signalled {output : Output} (hcode : output.code? = none) : Blames (.ok output) .signalled
  | timedOut {program : Path} {span : Duration} :
      Blames (.error (.timedOut program span)) (.timedOut span)
  | notStarted {program : Path} {reason : SystemError} :
      Blames (.error (.notStarted program reason))
        (.processFailed (CommandError.notStarted program reason).message)
  | notAwaited {program : Path} {reason : SystemError} :
      Blames (.error (.notAwaited program reason))
        (.processFailed (CommandError.notAwaited program reason).message)

variable {result : Except CommandError Output} {fault : Fault}

lemma faultOfCode_eq_none_iff {code? : Option Int} : faultOfCode code? = none ↔ code? = some 0 := by
  cases code? <;> simp [faultOfCode]

lemma fault?_eq_none_iff : (ofResult result).fault? = none ↔ Succeeds result := by
  unfold Succeeds
  rcases result with (_ | _ | _) | output
  · simp [ofResult]
  · simp [ofResult]
  · simp [ofResult]
  · simp [ofResult, faultOfCode_eq_none_iff]

lemma blames_of_fault? (h : (ofResult result).fault? = some fault) : Blames result fault := by
  rcases result with (⟨program, reason⟩ | ⟨program, reason⟩ | ⟨program, span⟩) | output
  · obtain rfl := Option.some.inj h
    exact .notStarted
  · obtain rfl := Option.some.inj h
    exact .notAwaited
  · obtain rfl := Option.some.inj h
    exact .timedOut
  · cases hcode : output.code? with
    | none =>
      obtain rfl : Fault.signalled = fault := by simpa [ofResult, hcode, faultOfCode] using h
      exact .signalled hcode
    | some code =>
      obtain ⟨hne, rfl⟩ : code ≠ 0 ∧ Fault.exited code = fault := by
        simpa [ofResult, hcode, faultOfCode] using h
      exact .exited hcode hne

/-- A probe that does not succeed shows why. -/
lemma exists_fault (h : ¬ Succeeds result) : ∃ fault, (ofResult result).fault? = some fault :=
  Option.ne_none_iff_exists'.mp (fault?_eq_none_iff.not.mpr h)

end Probe

namespace Bootstrap

open Probe (Succeeds Blames)

/-! ### One probe after the other -/

section Rounds

variable (host : Host σ) (command : Command) (policy : RetryPolicy)

/-- The machine before probe number `i`, if each of the probes before it is followed by its
pause. -/
def machineAt (state : σ) : ℕ → σ
  | 0 => state
  | i + 1 => host.pause (policy.delay (.ofNat i)) (host.perform command (machineAt state i)).2

/-- What probe number `i` comes to, if there is one. -/
def resultAt (state : σ) (i : ℕ) : Except CommandError Output :=
  (host.perform command (machineAt host command policy state i)).1

/-- What is done from probe number `i` on: `n` probes, each with the pause that comes after it, and
one more probe. -/
def rounds (i n : ℕ) : List Event :=
  (List.range' i n).flatMap (fun j => [.started command, .paused (policy.delay (.ofNat j))]) ++
    [.started command]

/-- Of a row of tries number `n` is the last: the first that succeeds, or the last there may be. -/
structure EndsAt (succeeds : ℕ → Prop) (limit n : ℕ) : Prop where
  le_limit : n ≤ limit
  failed : ∀ i < n, ¬ succeeds i
  last : succeeds n ∨ n = limit

end Rounds

variable {host : Host σ} {command : Command} {policy : RetryPolicy} {state : σ}
  {journal : List Event} {succeeds : ℕ → Prop} {limit n i left : ℕ}

lemma EndsAt.eq_of_first (h : EndsAt succeeds limit n) {k : ℕ} (hle : k ≤ limit)
    (hk : succeeds k) (hfirst : ∀ i < k, ¬ succeeds i) : n = k := by
  rcases Nat.lt_trichotomy n k with hlt | heq | hgt
  · rcases h.last with hn | rfl
    · exact absurd hn (hfirst n hlt)
    · omega
  · exact heq
  · exact absurd hk (h.failed k hgt)

lemma EndsAt.eq_of_none (h : EndsAt succeeds limit n) (hnone : ∀ i ≤ limit, ¬ succeeds i) :
    n = limit :=
  h.last.resolve_left (hnone n h.le_limit)

/-- After a try that fails the tries go on with one less. -/
lemma EndsAt.succ (h : EndsAt (fun j => succeeds (j + 1)) limit n) (hfails : ¬ succeeds 0) :
    EndsAt succeeds (limit + 1) (n + 1) where
  le_limit := Nat.succ_le_succ h.le_limit
  failed i hi := by
    cases i with
    | zero => exact hfails
    | succ i => exact h.failed i (Nat.lt_of_succ_lt_succ hi)
  last := h.last.imp_right (congrArg (· + 1))

lemma rounds_succ : rounds command policy i (n + 1) =
    .started command :: .paused (policy.delay (.ofNat i)) :: rounds command policy (i + 1) n := by
  simp [rounds, List.range'_succ]

lemma probeUntil_last (h : Succeeds (resultAt host command policy state i) ∨ left = 0) :
    probeUntil host command policy left (.ofNat i)
        ⟨machineAt host command policy state i, journal⟩ =
      (.ofResult (resultAt host command policy state i), .ofNat i,
        ⟨(host.perform command (machineAt host command policy state i)).2,
          journal ++ rounds command policy i 0⟩) :=
  Course.probeUntil_of_last (h.imp_left Probe.fault?_eq_none_iff.mpr)

lemma probeUntil_retry (h : ¬ Succeeds (resultAt host command policy state i)) :
    probeUntil host command policy (left + 1) (.ofNat i)
        ⟨machineAt host command policy state i, journal⟩ =
      probeUntil host command policy left (.ofNat (i + 1))
        ⟨machineAt host command policy state (i + 1),
          journal ++ [.started command, .paused (policy.delay (.ofNat i))]⟩ := by
  obtain ⟨fault, hfault⟩ := Probe.exists_fault h
  refine (Course.probeUntil_of_fault (s := ⟨machineAt host command policy state i, journal⟩)
    hfault).trans ?_
  rw [UInt32.ofNat_add]
  simp [Session.record, Session.await, Session.pause, machineAt]

/-- **The loop of the probes**, from probe number `i` on: with `left` retries it ends where the
tries end, and leaves what the rounds up to there leave. -/
lemma probeUntil_eq (host : Host σ) (command : Command) (policy : RetryPolicy) (state : σ)
    (left i : ℕ) (journal : List Event) : ∃ n,
    EndsAt (fun j => Succeeds (resultAt host command policy state (i + j))) left n ∧
    probeUntil host command policy left (.ofNat i)
        ⟨machineAt host command policy state i, journal⟩ =
      (.ofResult (resultAt host command policy state (i + n)), .ofNat (i + n),
        ⟨(host.perform command (machineAt host command policy state (i + n))).2,
          journal ++ rounds command policy i n⟩) := by
  induction left generalizing i journal with
  | zero =>
    exact ⟨0, ⟨Nat.le_refl 0, by simp, .inr rfl⟩, probeUntil_last (.inr rfl)⟩
  | succ left ih =>
    by_cases hsucceeds : Succeeds (resultAt host command policy state i)
    · exact ⟨0, ⟨Nat.zero_le _, by simp, .inl hsucceeds⟩, probeUntil_last (.inl hsucceeds)⟩
    · obtain ⟨n, hends, hrest⟩ := ih (i + 1)
        (journal ++ [.started command, .paused (policy.delay (.ofNat i))])
      refine ⟨n + 1, .succ ?_ hsucceeds, ?_⟩
      · simpa [Nat.add_comm, Nat.add_left_comm] using hends
      · rw [probeUntil_retry hsucceeds, hrest, rounds_succ]
        simp [Nat.add_comm, Nat.add_left_comm]

/-! ### What the rounds leave -/

@[simp] lemma pauses_warn (s : Session σ) (ws : List Warning) : (s.warn ws).pauses = s.pauses := by
  simp [Session.warn, Session.pauses, List.filterMap_map]

lemma started_rounds (s : Session σ) (machine : σ) :
    Session.started ⟨machine, s.journal ++ rounds command policy 0 n⟩ =
      s.started ++ List.replicate (n + 1) command := by
  simp [Session.started, rounds, List.filterMap_flatMap, List.replicate_succ',
    ← List.map_eq_flatMap]

lemma pauses_rounds (s : Session σ) (machine : σ) :
    Session.pauses ⟨machine, s.journal ++ rounds command policy 0 n⟩ =
      s.pauses ++ policy.delays n := by
  simp [Session.pauses, rounds, List.filterMap_flatMap, RetryPolicy.delays, List.range_eq_range',
    ← List.map_eq_flatMap]

/-! ### The last probe -/

section Retries

variable {settings : ProbeSettings} {spec : Spec}

lemma retries_of_network (h : spec.networkBootstrap = true) :
    retries settings spec = settings.retry.retries.toNat := if_pos h

lemma retries_of_local (h : spec.networkBootstrap = false) : retries settings spec = 0 :=
  if_neg (by simp [h])

lemma retries_le (settings : ProbeSettings) (spec : Spec) :
    retries settings spec ≤ settings.retry.retries.toNat := by
  cases h : spec.networkBootstrap with
  | true => exact Nat.le_of_eq (retries_of_network h)
  | false => exact Nat.le_trans (Nat.le_of_eq (retries_of_local h)) (Nat.zero_le _)

end Retries

/-- What the last of some attempts makes of a tool, by what the attempt came to. -/
structure Decided (spec : Spec) (program : Path) (attempts : UInt32)
    (result : Except CommandError Output) (probed : Probed) : Prop where
  of_success {output : Output} (hresult : result = .ok output) (hcode : output.code? = some 0) :
    probed.outcome =
        (checkVersion program spec.minimumVersion ⟨none, output.stdout, output.stderr⟩).1 ∧
      ((∃ version, probed.outcome = .available program version) ∨
        ∃ found minimum, probed.outcome = .broken (.versionTooOld found minimum))
  of_failure (hfails : ¬ Succeeds result) : ∃ fault, Blames result fault ∧
    (spec.networkBootstrap = true → probed.outcome = .transientFailure attempts fault) ∧
    (spec.networkBootstrap = false → probed.outcome = .broken fault)
  shown_of_finished {output : Output} (hresult : result = .ok output) :
    probed.stdout = output.stdout ∧ probed.stderr = output.stderr
  shown_of_unfinished {e : CommandError} (hresult : result = .error e) :
    probed.stdout = "" ∧ probed.stderr = ""

/-- A check of the version does not find fault with anything else. -/
lemma checkVersion_cases (program : Path) (minimum? : Option String) (probe : Probe) :
    (∃ version, (checkVersion program minimum? probe).1 = .available program version) ∨
      ∃ found minimum, (checkVersion program minimum? probe).1 =
        .broken (.versionTooOld found minimum) := by
  unfold checkVersion
  cases minimum? with
  | none => exact .inl ⟨_, rfl⟩
  | some minimum =>
    cases hversion : probe.version? with
    | none => exact .inl ⟨_, rfl⟩
    | some found =>
      by_cases hold : Version.isOlder found minimum
      · exact .inr ⟨found, minimum, by simp [hold]⟩
      · exact .inl ⟨some found, by simp [hold]⟩

lemma decided_probeResult (linter : ResolvedLinter) (program : Path)
    (result : Except CommandError Output) (attempt : UInt32) :
    Decided linter.spec program (attempt + 1) result
      (Course.probeResult linter program attempt (.ofResult result)) where
  of_success := by
    rintro output rfl hcode
    have hprobe : Probe.ofResult (.ok output) = ⟨none, output.stdout, output.stderr⟩ := by
      simp [Probe.ofResult, Probe.faultOfCode, hcode]
    rw [hprobe]
    exact ⟨rfl, checkVersion_cases program _ _⟩
  of_failure hfails := by
    obtain ⟨fault, hfault⟩ := Probe.exists_fault hfails
    refine ⟨fault, Probe.blames_of_fault? hfault, fun hnetwork => ?_, fun hnetwork => ?_⟩ <;>
    simp [Course.probeResult, judge, hfault, hnetwork]
  shown_of_finished := by
    rintro output rfl
    exact ⟨rfl, rfl⟩
  shown_of_unfinished := by
    rintro (⟨program, reason⟩ | ⟨program, span⟩) rfl <;> exact ⟨rfl, rfl⟩

/-- What the probes of a tool that has been found come to and leave. -/
lemma probeLinter_eq {env : Environment} {settings : ProbeSettings} {linter : ResolvedLinter}
    {program : Path} {s : Session σ}
    (hfound : Executable.find? host s.machine env settings.searchPath? settings.cwd
      linter.executable = some program) :
    let command := Course.probeCommand env settings linter program
    let result := resultAt host command settings.retry s.machine
    ∃ n, EndsAt (fun i => Succeeds (result i)) (retries settings linter.spec) n ∧
      probeLinter host env settings linter s =
        (Course.probeResult linter program (.ofNat n) (.ofResult (result n)),
          Session.warn
            ⟨(host.perform command (machineAt host command settings.retry s.machine n)).2,
              (s.warn (env.toolVariables linter.linter).2).journal ++
                rounds command settings.retry 0 n⟩
            (judge linter.spec program (.ofResult (result n)) (.ofNat n)).2) := by
  intro command result
  obtain ⟨n, hends, hloop⟩ := probeUntil_eq host command settings.retry s.machine
    (retries settings linter.spec) 0 (s.warn (env.toolVariables linter.linter).2).journal
  simp only [Nat.zero_add] at hends hloop
  have hprobes : probeUntil host command settings.retry (retries settings linter.spec) 0
      (s.warn (env.toolVariables linter.linter).2) = _ := hloop
  refine ⟨n, hends, ?_⟩
  rw [Course.probeLinter_of_some hfound, hprobes]

/-- **The probes of one tool**, whatever the machine makes of them. A program that is not found is
missing, and nothing is started. A tool that does not fetch parts of itself is probed once. One that
does is probed up to the first success if there is one before the retries are used up, and else as
often as they allow. Between two probes stands the pause of that retry, and the pauses grow up to
the limit. What comes out is decided by the last probe and shows what that probe has shown. -/
theorem probed_until_success (host : Host σ) (env : Environment) (settings : ProbeSettings)
    (linter : ResolvedLinter) (s : Session σ) :
    let policy := settings.retry
    let limit := policy.retries.toNat
    let found := Executable.find? host s.machine env settings.searchPath? settings.cwd
      linter.executable
    let probed := (probeLinter host env settings linter s).1
    let last := (probeLinter host env settings linter s).2
    (found = none → probed = ⟨linter.linter, .missing, "", ""⟩ ∧ last = s) ∧
    ∀ program, found = some program →
      let command := Course.probeCommand env settings linter program
      let result := resultAt host command policy s.machine
      ∃ n, (linter.spec.networkBootstrap = false → n = 0) ∧
        (linter.spec.networkBootstrap = true →
          (∀ k ≤ limit, Succeeds (result k) → (∀ i < k, ¬ Succeeds (result i)) → n = k) ∧
          ((∀ k ≤ limit, ¬ Succeeds (result k)) → n = limit)) ∧
        (∃ before after : List Warning, last.journal =
          s.journal ++ before.map .warned ++ rounds command policy 0 n ++ after.map .warned) ∧
        last.started = s.started ++ List.replicate (n + 1) command ∧
        last.pauses = s.pauses ++ policy.delays n ∧
        (policy.delays n).Pairwise (· ≤ ·) ∧ (∀ d ∈ policy.delays n, d ≤ policy.maxBackoff) ∧
        Decided linter.spec program (.ofNat (n + 1)) (result n) probed := by
  intro policy limit found probed last
  constructor
  · intro hnone
    simp only [found] at hnone
    simp only [probed, last, probeLinter, hnone, and_self]
  · intro program hsome command result
    obtain ⟨n, hends, hrun⟩ := probeLinter_eq hsome
    obtain ⟨hprobed, hlast⟩ : probed = _ ∧ last = _ := Prod.mk.inj hrun
    have hlimit : n < UInt32.size := Nat.lt_of_le_of_lt
      (Nat.le_trans hends.le_limit (retries_le _ _)) policy.retries.toNat_lt_size
    refine ⟨n, fun hnetwork => ?_, fun hnetwork => ?_, ?_, ?_, ?_,
      RetryPolicy.pairwise_delays (Nat.le_of_lt hlimit),
      fun d => RetryPolicy.le_maxBackoff_of_mem_delays, ?_⟩
    · rw [retries_of_local hnetwork] at hends
      exact Nat.le_zero.mp hends.le_limit
    · rw [retries_of_network hnetwork] at hends
      exact ⟨fun k => hends.eq_of_first, hends.eq_of_none⟩
    · rw [hlast]
      exact ⟨_, _, rfl⟩
    · rw [hlast, Session.started_warn, started_rounds, Session.started_warn]
    · rw [hlast, pauses_warn, pauses_rounds, pauses_warn]
    · rw [hprobed, UInt32.ofNat_add]
      exact decided_probeResult linter program _ _

end Bootstrap

end LintChain

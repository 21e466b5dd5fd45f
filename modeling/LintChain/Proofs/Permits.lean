import LintChain.Proofs.ExitCode
import LintChain.Proofs.Given
import LintChain.Proofs.Looks
import LintChain.Proofs.Shelf
import LintChain.Program

/-!
How many workers can be asked for. A command line and a manifest take any machine word that is not
0, and pass it on as it is. The words that are too large for the workers to be counted are known
only when the chain is started: then the run breaks off.
-/

namespace LintChain

example : Plan.maxWorkers = CommandLine.maxJobs >>> 3 := by decide

/-- The number of workers that is asked for, if one is, is a machine word and not 0. -/
def Askable (jobs? : Option ℕ) : Prop :=
  ∀ jobs, jobs? = some jobs → 1 ≤ jobs ∧ jobs ≤ CommandLine.maxJobs

lemma askable_none : Askable none := by rintro _ ⟨⟩

/-! ### On the command line -/

namespace CommandLine

variable {P : Arguments → Prop} {a a' : Arguments} {text : List Char} {n : ℕ}

/-- What every single setting of the command line keeps. -/
structure Kept (P : Arguments → Prop) : Prop where
  setBootstrap {a a' : Arguments} : P a → setBootstrap a = some a' → P a'
  setVerbose {a a' : Arguments} : P a → setVerbose a = some a' → P a'
  setJobs {a a' : Arguments} {text : List Char} : P a → setJobs a text = some a' → P a'
  addPath {a a' : Arguments} {text : List Char} : P a → addPath a text = some a' → P a'

/-- What holds of the arguments that the reading goes on with, which does not end in a run. -/
def Effect.Leads (P : Arguments → Prop) : Effect → Prop
  | .go a => P a
  | .wantJobs a => P a
  | .stop r => ∀ a, r ≠ .lint a

lemma leads_ofOption {a? : Option Arguments} (h : ∀ a, a? = some a → P a) :
    (Effect.ofOption a?).Leads P := by
  cases a? with
  | none => exact fun _ => nofun
  | some a => exact h a rfl

namespace Kept

variable (hkept : Kept P)

include hkept

lemma longOption (h : P a) (text : List Char) : (longOption a text).Leads P := by
  unfold CommandLine.longOption
  dsimp only
  split
  · exact leads_ofOption fun _ => hkept.setBootstrap h
  · exact leads_ofOption fun _ => hkept.setVerbose h
  · exact leads_ofOption fun _ => hkept.setJobs h
  · exact h
  all_goals exact fun _ => nofun

lemma shortOptions (h : P a) (text : List Char) : (shortOptions a text).Leads P := by
  fun_induction CommandLine.shortOptions a text with
  | case1 => exact h
  | case2 a rest a' hset ih => exact ih (hkept.setVerbose h hset)
  | case4 => exact h
  | case5 | case6 => exact leads_ofOption fun _ => hkept.setJobs h
  | _ => exact fun _ => nofun

/-- One argument keeps it. -/
lemma readArgument (h : P a) (text : List Char) : (readArgument a text).Leads P := by
  unfold CommandLine.readArgument
  split
  · exact hkept.longOption h _
  · exact hkept.shortOptions h _
  · exact leads_ofOption fun _ => hkept.addPath h

lemma readPaths {texts : List (List Char)} (h : P a) (hread : readPaths a texts = .lint a') :
    P a' := by
  induction texts generalizing a with
  | nil =>
    obtain rfl := Request.lint.inj hread
    exact h
  | cons text rest ih =>
    unfold CommandLine.readPaths at hread
    split at hread
    next a₁ hadd => exact ih (hkept.addPath h hadd) hread
    · cases hread

/-- **What every setting keeps holds of the arguments of a run.** -/
lemma readAll {texts : List (List Char)} (h : P a) (hread : readAll a texts = .lint a') :
    P a' := by
  fun_induction CommandLine.readAll a texts with
  | case1 =>
    obtain rfl := Request.lint.inj hread
    exact h
  | case2 => exact hkept.readPaths h hread
  | case3 a text rest hdashes a₁ hgo ih =>
    have hleads : (CommandLine.readArgument a text).Leads P := hkept.readArgument h text
    rw [hgo] at hleads
    exact ih hleads hread
  | case4 a text rest hdashes r hstop =>
    have hleads : (CommandLine.readArgument a text).Leads P := hkept.readArgument h text
    rw [hstop] at hleads
    exact absurd hread (hleads a')
  | case6 a text hdashes a₁ hwant value rest a₂ hset ih =>
    have hleads : (CommandLine.readArgument a text).Leads P := hkept.readArgument h text
    rw [hwant] at hleads
    exact ih (hkept.setJobs hleads hset) hread
  | _ => cases hread

end Kept

/-- The digits of a number, which may have a plus sign in front. -/
def digits (text : List Char) : List Char :=
  match text with
  | '+' :: rest => rest
  | _ => text

lemma jobs?_eq_some_iff : jobs? text = some n ↔ digits text ≠ [] ∧
    (digits text).all Char.isDigit ∧ Nat.ofDigitChars 10 (digits text) 0 = n ∧
    1 ≤ n ∧ n ≤ maxJobs := by
  have hfold : Nat.ofDigitChars 10 (digits text) 0 =
      (digits text).foldl (fun n c => n * 10 + (c.toNat - '0'.toNat)) 0 := by
    unfold Nat.ofDigitChars
    simp only [Nat.mul_comm]
  have hjobs : jobs? text = if digits text ≠ [] ∧ (digits text).all Char.isDigit ∧
      1 ≤ Nat.ofDigitChars 10 (digits text) 0 ∧ Nat.ofDigitChars 10 (digits text) 0 ≤ maxJobs
      then some (Nat.ofDigitChars 10 (digits text) 0) else none := by
    rw [hfold]
    rfl
  rw [hjobs, Option.ite_none_right_eq_some, Option.some.injEq]
  constructor
  · rintro ⟨⟨hne, hall, hpos, hle⟩, rfl⟩
    exact ⟨hne, hall, rfl, hpos, hle⟩
  · rintro ⟨hne, hall, rfl, hpos, hle⟩
    exact ⟨⟨hne, hall, hpos, hle⟩, rfl⟩

lemma kept_askable : Kept fun a => Askable a.jobs? where
  setBootstrap {a a'} h hset := by
    unfold setBootstrap at hset
    split at hset <;> cases hset
    exact h
  setVerbose {a a'} h hset := by
    unfold setVerbose at hset
    split at hset <;> cases hset
    exact h
  setJobs {a a' text} h hset := by
    unfold setJobs at hset
    split at hset
    · cases hset
    · obtain ⟨n, hn, rfl⟩ := Option.map_eq_some_iff.mp hset
      rintro jobs hjobs
      obtain rfl := Option.some.inj hjobs
      exact (jobs?_eq_some_iff.mp hn).2.2.2
  addPath {a a' text} h hset := by
    unfold addPath at hset
    split at hset <;> cases hset
    exact h

lemma askable_of_read {args : List String} (h : read args = .lint a) : Askable a.jobs? :=
  kept_askable.readAll askable_none h

/-- A number is read back from its digits. -/
lemma jobs?_toDigits (hpos : 1 ≤ n) (hle : n ≤ maxJobs) : jobs? (Nat.toDigits 10 n) = some n := by
  have hdigit : ∀ c ∈ Nat.toDigits 10 n, c.isDigit = true := fun c =>
    Nat.isDigit_of_mem_toDigits (by decide) (by decide)
  have hdigits : digits (Nat.toDigits 10 n) = Nat.toDigits 10 n := by
    unfold digits
    split
    next rest heq => exact absurd (hdigit '+' (heq ▸ List.mem_cons_self)) (by decide)
    · rfl
  rw [jobs?_eq_some_iff, hdigits]
  exact ⟨Nat.toDigits_ne_nil, List.all_eq_true.mpr hdigit, Nat.ofDigitChars_ten_toDigits, hpos, hle⟩

/-- **The numbers of workers that a command line can ask for** are all that have 64 bits, but 0. -/
theorem exists_read_iff : (∃ args a, read args = .lint a ∧ a.jobs? = some n) ↔
    1 ≤ n ∧ n ≤ maxJobs := by
  constructor
  · rintro ⟨args, a, hread, hjobs⟩
    exact askable_of_read hread n hjobs
  · rintro ⟨hpos, hle⟩
    refine ⟨["-j", n.repr], { Arguments.empty with jobs? := some n }, ?_, rfl⟩
    have hset : setJobs .empty n.repr.toList = some { Arguments.empty with jobs? := some n } := by
      rw [Nat.toList_repr, setJobs, jobs?_toDigits hpos hle]
      rfl
    show readAll .empty ["-j".toList, n.repr.toList] = _
    have hwant : readArgument .empty "-j".toList = .wantJobs .empty := rfl
    rw [readAll, if_neg (by decide), hwant]
    simp only [hset, readAll]

end CommandLine

/-! ### In a manifest -/

lemma Toml.Value.le_of_natural {bound n : ℕ} {expected : String} {v : Toml.Value}
    (h : v.natural bound expected = .ok n) : n ≤ bound := by
  cases v with
  | integer k =>
    unfold natural at h
    dsimp only at h
    split at h
    · cases h
    next m _ =>
      split at h
      · cases h
      next hrange =>
        obtain rfl := Except.ok.inj h
        omega
    · cases h
  | _ => exact absurd h Config.not_mismatch_ok

namespace Config

variable {s : Section} {t : Toml.Table} {config : Config} {manifest : Path} {contents : String}

lemma askable_of_made (hreads : s.Reads t) (hmade : Made s config) : Askable config.jobs? := by
  intro jobs hjobs
  have hsection : s.jobs? = some jobs := hmade.jobs?_eq ▸ hjobs
  refine ⟨Nat.one_le_iff_ne_zero.mpr fun hzero => hmade.jobs_ne (hzero ▸ hjobs), ?_⟩
  have hnumber := hreads.jobs?
  rw [hsection] at hnumber
  cases hentry : t.lookup "jobs" with
  | none =>
    rw [hentry] at hnumber
    cases hnumber
  | some v =>
    rw [hentry, Option.mapM_some] at hnumber
    obtain ⟨n, hn, heq⟩ := map_eq_ok_iff.mp hnumber
    obtain rfl := Option.some.inj heq
    exact Toml.Value.le_of_natural hn

/-- A manifest that is accepted asks for a machine word of workers. -/
lemma askable_of_parse (h : (parse manifest contents).2 = .ok config) : Askable config.jobs? := by
  unfold parse at h
  split at h
  · cases h
  next s hsection =>
    obtain ⟨doc, -, -, hreads⟩ := exists_of_readSection hsection
    exact askable_of_made hreads (made_of_ofSection h)

end Config

/-! ### In a run -/

namespace Setting

variable {σ ω : Type} {m : Setting σ ω} {inv : Invocation} {p : Progress σ ω} {state : σ}
  {config : Config} {e : TooManyWorkers}

/-- What an invocation asks for comes before what its manifest asks for. -/
lemma askable_of_configured (hjobs : Askable inv.jobs?)
    (h : m.configured inv state = .ok config) : Askable config.jobs? := by
  obtain ⟨s, base, hdescribed, hmade, rfl⟩ := exists_made_of_configured h
  obtain ⟨manifest, -, hmanifest⟩ := bind_eq_ok_iff.mp hdescribed
  obtain ⟨contents, -, hsection⟩ := bind_eq_ok_iff.mp hmanifest
  obtain ⟨doc, -, -, hreads⟩ := Config.exists_of_readSection hsection
  have hbase : Askable base.jobs? := Config.askable_of_made hreads hmade
  cases hinv : inv.jobs? with
  | none => simpa [hinv] using hbase
  | some jobs => simpa [hinv] using hjobs

/-- A run breaks off where the chain does. -/
lemma run_eq_workers_iff :
    (m.run inv p).1 = .error (.workers e) ↔ (m.lint inv p).1 = .error (.workers e) := by
  rw [run_apply]
  rcases m.lint inv p with ⟨e' | run, q⟩
  · cases e' with
    | workers e' =>
      have hend : (m.conclude (.error (.workers e')) q).1 = .error (.workers e') := rfl
      simp [hend]
    | _ =>
      -- all other errors come to a code, or to a refused write
      simp only [conclude, Stage.bind_eq, writeLines_apply]
      cases (m.writer.writeLines _ q.out).1 <;> simp [Except.mapError]
  · simp [conclude]

variable (m inv config) in
/-- The chain is started with more workers than can be counted. -/
structure Overloads (s : Session σ) (jobs : ℕ) : Prop where
  some_selected : m.selected inv config s.machine ≠ []
  available : m.AllAvailable inv config s
  asked : config.jobs? = some jobs
  uncountable : Plan.maxWorkers < jobs

lemma executed_eq_error_iff {s : Session σ} : m.executed inv config s = .error e ↔
    config.jobs? = some e.jobs ∧ Plan.maxWorkers < e.jobs := by
  constructor
  · intro h
    obtain ⟨jobs, hasked, hlt⟩ : ∃ jobs, config.jobs? = some jobs ∧ Plan.maxWorkers < jobs := by
      by_contra hcountable
      push Not at hcountable
      rw [executed_of_countable hcountable] at h
      cases h
    have hexecuted : m.executed inv config s = .error ⟨jobs⟩ :=
      congrArg Prod.fst (Plan.execute_of_lt hasked hlt)
    obtain rfl := Except.error.inj (h.symm.trans hexecuted)
    exact ⟨hasked, hlt⟩
  · rintro ⟨hasked, hlt⟩
    exact congrArg Prod.fst (Plan.execute_of_lt hasked hlt)

lemma finding_eq_workers_iff {s : Session σ} (hconfig : m.configured inv s.machine = .ok config) :
    m.finding inv s = .error (.workers e) ↔ m.Overloads inv config s e.jobs := by
  have hbroken : m.finding inv s = .error (.workers e) ↔
      m.selected inv config s.machine ≠ [] ∧ (m.bootstrapped inv config s).1.isSuccess ∧
        m.executed inv config s = .error e := by
    unfold finding
    rw [hconfig]
    dsimp only
    by_cases hnone : m.selected inv config s.machine = []
    · cases inv.bootstrap <;> cases (m.bootstrapped inv config s).1.isSuccess <;> simp [hnone]
    · cases (m.bootstrapped inv config s).1.isSuccess <;> cases m.executed inv config s <;>
        simp [hnone, Except.mapError, Except.map]
  rw [hbroken, isSuccess_iff_allAvailable, executed_eq_error_iff]
  exact ⟨fun ⟨hsome, havailable, hasked, hlt⟩ => ⟨hsome, havailable, hasked, hlt⟩,
    fun h => ⟨h.some_selected, h.available, h.asked, h.uncountable⟩⟩

/-- **The workers of a run** that is asked for by a command line, under a manifest that is accepted.
There is at least one, and a number that is asked for has 64 bits. Whatever the writer, a run breaks
off only when it comes to start the chain with more workers than can be counted; and it does then,
if the writer refuses nothing. -/
theorem permits_of_read {args : List String} {a : Arguments}
    (hread : CommandLine.read args = .lint a) (cwd : Path)
    (hconfig : m.configured (Program.invocation cwd a) p.session.machine = .ok config) :
    let inv := Program.invocation cwd a
    (∀ cores, 1 ≤ cores → 1 ≤ config.jobs?.getD cores) ∧
      (∀ jobs, config.jobs? = some jobs → 1 ≤ jobs ∧ jobs ≤ CommandLine.maxJobs) ∧
      (∀ jobs, (m.run inv p).1 = .error (.workers ⟨jobs⟩) → m.Overloads inv config p.session jobs) ∧
      (m.writer.Reliable → ∀ jobs, m.Overloads inv config p.session jobs →
        (m.run inv p).1 = .error (.workers ⟨jobs⟩)) := by
  intro inv
  have hinv : Askable inv.jobs? := CommandLine.askable_of_read hread
  have hasked : Askable config.jobs? := askable_of_configured hinv hconfig
  have hzero : inv.jobs? ≠ some 0 := fun h => absurd (hinv 0 h).1 (by decide)
  refine ⟨fun cores => workers_pos hconfig hzero, hasked, fun jobs hrun => ?_,
    fun hwriter jobs hoverloads => ?_⟩
  · obtain ⟨s, ⟨out, hlint⟩ | ⟨-, e, q, hlint⟩⟩ := m.yields_lint inv p
    · have hbroken : (m.lint inv p).1 = _ := run_eq_workers_iff.mp hrun
      rw [hlint] at hbroken
      exact (finding_eq_workers_iff hconfig).mp hbroken
    · -- a refused write ends the chain with an error of its own
      have hbroken : (m.lint inv p).1 = _ := run_eq_workers_iff.mp hrun
      rw [hlint] at hbroken
      cases hbroken
  · rw [run_eq_workers_iff, lint_of_reliable hwriter]
    exact (finding_eq_workers_iff hconfig).mpr hoverloads

/-- Of the command line and the manifest the first decides. -/
theorem permits_of_read_shelf :
    let p : Progress Shelf String :=
      ⟨.begin [("pyproject.toml", "[tool.lint]\njobs = 3\n"), ("a.py", "x = 1\n")], ""⟩
    let a : Arguments := ⟨false, false, some 2, [⟨"a.py"⟩]⟩
    let inv := Program.invocation Shelf.directory a
    CommandLine.read ["-j", "2", "a.py"] = .lint a ∧
      ∃ config, Shelf.setting.configured inv p.session.machine = .ok config ∧
        config.jobs? = some 2 ∧
        ∀ jobs, (Shelf.setting.run inv p).1 ≠ .error (.workers ⟨jobs⟩) := by
  intro p a inv
  have hread : CommandLine.read ["-j", "2", "a.py"] = .lint a := by decide +kernel
  obtain ⟨config, hconfig, hcheck⟩ : ∃ config,
      Shelf.setting.configured inv p.session.machine = .ok config ∧
      decide (config.jobs? = some 2) = true := exists_ok_of_check (by decide +kernel)
  obtain ⟨-, -, honly, -⟩ := permits_of_read hread Shelf.directory hconfig
  have hjobs : config.jobs? = some 2 := of_decide_eq_true hcheck
  refine ⟨hread, config, hconfig, hjobs, fun jobs hrun => ?_⟩
  obtain ⟨-, -, hasked, huncountable⟩ := honly jobs hrun
  obtain rfl := Option.some.inj (hjobs.symm.trans hasked)
  exact absurd huncountable (by decide)

/-- Both a manifest and a command line may ask for one worker more than can be counted. The run
that does breaks off. -/
theorem permits_of_read_uncountable :
    let p : Progress Shelf String :=
      ⟨.begin [("pyproject.toml", "[tool.lint]\njobs = 2305843009213693952\n"),
        ("a.py", "x = 1\n")], ""⟩
    let a : Arguments := ⟨false, false, none, [⟨"a.py"⟩]⟩
    CommandLine.read ["a.py"] = .lint a ∧
      CommandLine.read ["a.py", "-j", "2305843009213693952"] =
        .lint { a with jobs? := some (Plan.maxWorkers + 1) } ∧
      (Shelf.setting.run (Program.invocation Shelf.directory a) p).1 =
        .error (.workers ⟨Plan.maxWorkers + 1⟩) := by
  intro p a
  let inv := Program.invocation Shelf.directory a
  let target : Target := ⟨⟨"a.py"⟩, ⟨"/shelf/a.py"⟩⟩
  obtain ⟨config, hconfig, hcheck⟩ : ∃ config,
      Shelf.setting.configured inv p.session.machine = .ok config ∧
      (decide (config.jobs? = some (Plan.maxWorkers + 1)) &&
        (Shelf.setting.bootstrapped inv config p.session).1.isSuccess &&
        decide (Shelf.setting.FindsOnly inv config p.session.machine target)) = true :=
    exists_ok_of_check (by decide +kernel)
  simp only [Bool.and_eq_true, decide_eq_true_eq] at hcheck
  obtain ⟨⟨hjobs, hsuccess⟩, hfound⟩ := hcheck
  have hselected : Shelf.setting.selected inv config p.session.machine = [target] :=
    hfound.selected_eq
  have hoverloads : Shelf.setting.Overloads inv config p.session (Plan.maxWorkers + 1) :=
    ⟨by simp [hselected], isSuccess_iff_allAvailable.mp hsuccess, hjobs, Nat.lt_succ_self _⟩
  refine ⟨by decide +kernel, by decide +kernel, ?_⟩
  rw [run_eq_workers_iff, lint_of_reliable Writer.reliable_collect]
  exact (finding_eq_workers_iff hconfig).mpr hoverloads

end Setting

end LintChain

import LintChain.Proofs.Bytes
import LintChain.Proofs.Given

/-!
What it takes for a manifest to be accepted. A section makes demands: its patterns compile, the
value of each key that names a linter is a table of settings, there is a worker and some time. They
stand in one order, and the first that is not met is the error that is reported.
-/

namespace LintChain.Config

open Toml (Value Table)

/-! ### Demands -/

/-- A condition on what a section says. -/
inductive Demand
  /-- The pattern of included paths compiles. -/
  | includes (pattern : String)
  /-- The glob of excluded paths compiles. -/
  | excludes (pattern : String)
  /-- All of these globs can be matched together. -/
  | excludesTogether (patterns : List String)
  /-- The value of a linter's key is a table of its settings. -/
  | describes (linter : Linter) (v : Value)
  | works (jobs? : Option Nat)
  | lasts (timeout? : Option Nat)

namespace Demand

def Holds : Demand → Prop
  | includes pattern => ∃ regex, Regex.compile pattern = .ok regex
  | excludes pattern => ∃ glob, Glob.compile pattern = .ok glob
  | excludesTogether patterns =>
    ∃ globs set, patterns.mapM Glob.compile = .ok globs ∧ Glob.buildSet globs = .ok set
  | describes _ v => ∃ o, Override.ofValue v = .ok o
  | works jobs? => jobs? ≠ some 0
  | lasts timeout? => timeout? ≠ some 0

/-- How a demand that is not met is reported. -/
inductive Fault : Demand → ConfigError → Prop
  | includes {pattern : String} {cause : Regex.Error} :
      Regex.compile pattern = .error cause →
      Fault (.includes pattern) (.badInclude pattern cause)
  | excludes {pattern : String} {cause : Glob.Error} :
      Glob.compile pattern = .error cause →
      Fault (.excludes pattern) (.badExclude pattern cause)
  | excludesTogether {patterns : List String} {globs : List Glob} {cause : Glob.SetError} :
      patterns.mapM Glob.compile = .ok globs → Glob.buildSet globs = .error cause →
      Fault (.excludesTogether patterns) (.badExcludeSet patterns cause)
  | describes {linter : Linter} {v : Value} {cause : OverrideError} :
      Override.ofValue v = .error cause →
      Fault (.describes linter v) (.badSection linter cause)
  | works : Fault (.works (some 0)) .noJobs
  | lasts : Fault (.lasts (some 0)) .noTimeout

variable {d : Demand} {e e' : ConfigError}

lemma Fault.not_holds (h : d.Fault e) : ¬ d.Holds := by
  intro hholds
  cases h with
  | works => exact hholds rfl
  | lasts => exact hholds rfl
  | excludesTogether hglobs hset =>
    obtain ⟨globs, set, hglobs', hset'⟩ := hholds
    obtain rfl := Except.ok.inj (hglobs.symm.trans hglobs')
    exact absurd (hset'.symm.trans hset) (by simp)
  | _ h =>
    obtain ⟨_, hok⟩ := hholds
    exact absurd (hok.symm.trans h) (by simp)

lemma Fault.unique (h : d.Fault e) (h' : d.Fault e') : e = e' := by
  cases h <;> cases h' <;> simp_all

end Demand

/-! ### Judgements -/

section Judgement

variable {α β : Type} {ds ds' : List Demand} {r : Except ConfigError α} {e e' : ConfigError}

/-- A demand with this report is the first that is not met. -/
def FirstFault (ds : List Demand) (e : ConfigError) : Prop :=
  ∃ before d after, ds = before ++ d :: after ∧ (∀ d' ∈ before, d'.Holds) ∧ d.Fault e

lemma FirstFault.append (h : FirstFault ds e) (ds' : List Demand) : FirstFault (ds ++ ds') e := by
  obtain ⟨before, d, after, rfl, hbefore, hd⟩ := h
  exact ⟨before, d, after ++ ds', by simp, hbefore, hd⟩

lemma FirstFault.of_holds (h : FirstFault ds' e) (hds : ∀ d ∈ ds, d.Holds) :
    FirstFault (ds ++ ds') e := by
  obtain ⟨before, d, after, rfl, hbefore, hd⟩ := h
  refine ⟨ds ++ before, d, after, by simp, fun d' hd' => ?_, hd⟩
  rcases List.mem_append.mp hd' with hd' | hd'
  · exact hds d' hd'
  · exact hbefore d' hd'

lemma FirstFault.exists_not_holds (h : FirstFault ds e) : ∃ d ∈ ds, ¬ d.Holds := by
  obtain ⟨before, d, after, rfl, -, hd⟩ := h
  exact ⟨d, by simp, hd.not_holds⟩

lemma FirstFault.unique (h : FirstFault ds e) (h' : FirstFault ds e') : e = e' := by
  obtain ⟨before, d, after, rfl, hbefore, hd⟩ := h
  obtain ⟨before', d', after', heq, hbefore', hd'⟩ := h'
  induction before generalizing before' with
  | nil =>
    cases before' with
    | nil =>
      obtain rfl := (List.cons.inj heq).1
      exact hd.unique hd'
    | cons b rest =>
      obtain rfl := (List.cons.inj heq).1
      exact absurd (hbefore' d List.mem_cons_self) hd.not_holds
  | cons b rest ih =>
    obtain ⟨hb, hrest⟩ := List.forall_mem_cons.mp hbefore
    cases before' with
    | nil =>
      obtain rfl := (List.cons.inj heq).1
      exact absurd hb hd'.not_holds
    | cons b' rest' =>
      exact ih hrest rest' (List.cons.inj heq).2 (List.forall_mem_cons.mp hbefore').2

/-- A reading succeeds if all demands are met, and else reports the first that is not. -/
inductive Judges : List Demand → Except ConfigError α → Prop
  | ok {ds : List Demand} {a : α} : (∀ d ∈ ds, d.Holds) → Judges ds (.ok a)
  | error {ds : List Demand} {e : ConfigError} : FirstFault ds e → Judges ds (.error e)

namespace Judges

lemma bind {f : α → Except ConfigError β} (h : Judges ds r) (ds' : List Demand)
    (hf : ∀ a, r = .ok a → Judges ds' (f a)) : Judges (ds ++ ds') (r >>= f) := by
  cases h with
  | error hfault => exact .error (hfault.append ds')
  | @ok a hholds =>
    have hnext : Judges ds' (f a) := hf a rfl
    change Judges (ds ++ ds') (f a)
    generalize f a = next at hnext ⊢
    cases hnext with
    | ok hholds' => exact .ok fun d hd => (List.mem_append.mp hd).elim (hholds d) (hholds' d)
    | error hfault => exact .error (hfault.of_holds hholds)

lemma pure (a : α) : Judges [] (.ok a : Except ConfigError α) := .ok (by simp)

/-- A reading that one demand is about. -/
lemma single {ε : Type} {d : Demand} {x : Except ε α} {f : ε → ConfigError}
    (hok : ∀ a, x = .ok a → d.Holds) (herror : ∀ cause, x = .error cause → d.Fault (f cause)) :
    Judges [d] (x.mapError f) := by
  cases x with
  | ok a => exact .ok (List.forall_mem_singleton.mpr (hok a rfl))
  | error cause => exact .error ⟨[], d, [], rfl, by simp, herror cause rfl⟩

lemma accepted (h : Judges ds r) : (∃ a, r = .ok a) ↔ ∀ d ∈ ds, d.Holds := by
  cases h with
  | ok hholds => simpa using hholds
  | error hfault => simpa using hfault.exists_not_holds

lemma refused (h : Judges ds r) : r = .error e ↔ FirstFault ds e := by
  cases h with
  | ok hholds =>
    have hnot : ¬ FirstFault ds e := fun hfault => by
      obtain ⟨d, hd, hnot⟩ := hfault.exists_not_holds
      exact hnot (hholds d hd)
    simpa using hnot
  | @error e' hfault =>
    constructor
    · intro heq
      obtain rfl := Except.error.inj heq
      exact hfault
    · intro hfault'
      rw [hfault.unique hfault']

end Judges

end Judgement

/-! ### Sections -/

/-- The include that the value of a linter's key asks for, if it is a table of settings. -/
def includeOf? (v : Value) : Option String :=
  match Override.ofValue v with
  | .ok o => o.include?
  | .error _ => none

/-- What an entry has to meet: nothing, unless its key names a linter. -/
def entryDemands (entry : String × Value) : List Demand :=
  match Linter.ofName? entry.1 with
  | none => []
  | some linter => .describes linter entry.2 :: (includeOf? entry.2).toList.map .includes

/-- An unknown key has to meet nothing. -/
lemma entryDemands_of_none {key : String} {v : Value} (h : Linter.ofName? key = none) :
    entryDemands (key, v) = [] := by
  unfold entryDemands
  rw [h]

namespace Section

/-- The demands on the patterns of the whole run. -/
def patternDemands (s : Section) : List Demand :=
  .includes (s.include?.getD defaultInclude) :: (s.exclude?.getD []).map .excludes ++
    [.excludesTogether (s.exclude?.getD [])]

/-- All demands, in the order in which they are looked at. -/
def demands (s : Section) : List Demand :=
  s.patternDemands ++ s.others.flatMap entryDemands ++ [.works s.jobs?, .lasts s.timeout?]

end Section

variable {s : Section} {manifest : Path}

lemma judges_compileInclude (pattern : String) :
    Judges [.includes pattern] (compileInclude pattern) :=
  .single (fun regex h => ⟨regex, h⟩) fun _ h => .includes h

lemma mapM_compile_of_mapError {patterns : List String} {globs : List Glob}
    (h : patterns.mapM (fun pattern => (Glob.compile pattern).mapError (.badExclude pattern)) =
      (.ok globs : Except ConfigError (List Glob))) : patterns.mapM Glob.compile = .ok globs := by
  induction patterns generalizing globs with
  | nil => exact congrArg Except.ok (Except.ok.inj h)
  | cons pattern rest ih =>
    rw [List.mapM_cons] at h ⊢
    obtain ⟨glob, hglob, h⟩ := bind_eq_ok_iff.mp h
    obtain ⟨globs', hrest, h⟩ := bind_eq_ok_iff.mp h
    refine bind_eq_ok_iff.mpr ⟨glob, mapError_eq_ok_iff.mp hglob,
      bind_eq_ok_iff.mpr ⟨globs', ih hrest, congrArg Except.ok (Except.ok.inj h)⟩⟩

lemma judges_compile_excludes (patterns : List String) :
    Judges (patterns.map .excludes) (patterns.mapM fun pattern =>
      (Glob.compile pattern).mapError (.badExclude pattern)) := by
  induction patterns with
  | nil => exact .pure _
  | cons pattern rest ih =>
    rw [List.mapM_cons]
    have hfirst : Judges [.excludes pattern]
        ((Glob.compile pattern).mapError (.badExclude pattern)) :=
      .single (fun glob h => ⟨glob, h⟩) fun _ h => .excludes h
    refine hfirst.bind (rest.map .excludes) fun glob _ => ?_
    rw [← List.append_nil (rest.map _)]
    exact ih.bind _ fun globs _ => .pure _

lemma judges_compileExclude (patterns : List String) :
    Judges (patterns.map .excludes ++ [.excludesTogether patterns]) (compileExclude patterns) := by
  refine (judges_compile_excludes patterns).bind _ fun globs hglobs => ?_
  have hcompile := mapM_compile_of_mapError hglobs
  exact .single (fun set h => ⟨globs, set, hcompile, h⟩) fun cause h => .excludesTogether hcompile h

lemma judges_readOverride {key : String} {linter : Linter}
    (hname : Linter.ofName? key = some linter) (v : Value) :
    Judges (entryDemands (key, v)) (readOverride linter v) := by
  unfold entryDemands readOverride
  rw [hname]
  have hread : Judges [.describes linter v] ((Override.ofValue v).mapError (.badSection linter)) :=
    .single (fun o h => ⟨o, h⟩) fun _ h => .describes h
  refine hread.bind _ fun o ho => ?_
  have hinclude : includeOf? v = o.include? := by
    rw [includeOf?, mapError_eq_ok_iff.mp ho]
  rw [hinclude]
  cases o.include? with
  | none => exact .pure _
  | some pattern => exact (judges_compileInclude pattern).bind [] fun regex _ => .pure _

lemma judges_applyOthers (others : Table) (linters : List ResolvedLinter) :
    Judges (others.flatMap entryDemands) (applyOthers others linters).2 := by
  induction others generalizing linters with
  | nil => exact .pure _
  | cons entry rest ih =>
    obtain ⟨key, v⟩ := entry
    rw [List.flatMap_cons]
    cases hname : Linter.ofName? key with
    | none =>
      simpa [entryDemands_of_none hname, applyOthers, hname] using ih linters
    | some linter =>
      have hstep : (applyOthers ((key, v) :: rest) linters).2 = (readOverride linter v >>= fun o =>
          (applyOthers rest (applyOverride linter o.1 o.2 linters)).2) := by
        simp only [applyOthers, hname]
        cases readOverride linter v <;> rfl
      rw [hstep]
      exact (judges_readOverride hname v).bind _ fun o _ => ih _

lemma judges_readJobs (jobs? : Option Nat) : Judges [.works jobs?] (readJobs jobs?) := by
  unfold readJobs
  split
  next h =>
    obtain rfl := h
    exact .error ⟨[], _, [], rfl, by simp, .works⟩
  next h => exact .ok (List.forall_mem_singleton.mpr h)

lemma judges_readTimeout (timeout? : Option Nat) :
    Judges [.lasts timeout?] (readTimeout timeout?) := by
  unfold readTimeout
  split
  next h =>
    obtain rfl := h
    exact .error ⟨[], _, [], rfl, by simp, .lasts⟩
  next h => exact .ok (List.forall_mem_singleton.mpr h)

lemma judges_merge (includePattern : Regex) (exclude : List Glob) :
    Judges (s.others.flatMap entryDemands ++ [.works s.jobs?, .lasts s.timeout?])
      (merge manifest s includePattern exclude).2 := by
  refine (judges_applyOthers _ _).bind _ fun linters _ => ?_
  refine (judges_readJobs s.jobs?).bind [.lasts s.timeout?] fun jobs? _ => ?_
  exact (judges_readTimeout s.timeout?).bind [] fun timeout? _ => .pure _

/-- The reading of a section reports the first demand that is not met. -/
lemma judges_ofSection : Judges s.demands (ofSection manifest s).2 := by
  have hread : (ofSection manifest s).2 =
      (compileInclude (s.include?.getD defaultInclude) >>= fun includePattern =>
        compileExclude (s.exclude?.getD []) >>= fun exclude =>
          (merge manifest s includePattern exclude).2) := by
    unfold ofSection
    cases compileInclude (s.include?.getD defaultInclude) with
    | error e => rfl
    | ok includePattern => cases compileExclude (s.exclude?.getD []) <;> rfl
  have hdemands : s.demands = [.includes (s.include?.getD defaultInclude)] ++
      (((s.exclude?.getD []).map .excludes ++ [.excludesTogether (s.exclude?.getD [])]) ++
        (s.others.flatMap entryDemands ++ [.works s.jobs?, .lasts s.timeout?])) := by
    simp [Section.demands, Section.patternDemands]
  rw [hread, hdemands]
  refine (judges_compileInclude _).bind _ fun includePattern _ => ?_
  exact (judges_compileExclude _).bind _ fun exclude _ => judges_merge includePattern exclude

/-! ### Warnings -/

/-- The warnings about the unknown keys of some entries. -/
def unknownKeys (entries : Table) : List Warning :=
  (entries.filter fun entry => (Linter.ofName? entry.1).isNone).map fun entry =>
    .unknownKey entry.1

/-- The entries before the first one with a demand that is not met, or all if there is none. -/
def Passed (others passed : Table) : Prop :=
  ∃ rest, others = passed ++ rest ∧ (∀ entry ∈ passed, ∀ d ∈ entryDemands entry, d.Holds) ∧
    ∀ entry ∈ rest.head?, ∃ d ∈ entryDemands entry, ¬ d.Holds

lemma Passed.cons {entry : String × Value} {others passed : Table} (h : Passed others passed)
    (hentry : ∀ d ∈ entryDemands entry, d.Holds) :
    Passed (entry :: others) (entry :: passed) := by
  obtain ⟨rest, rfl, hpassed, hrest⟩ := h
  exact ⟨rest, rfl, List.forall_mem_cons.mpr ⟨hentry, hpassed⟩, hrest⟩

/-- Unknown keys are warned about up to the first entry that is refused. -/
lemma exists_passed (others : Table) (linters : List ResolvedLinter) :
    ∃ passed, Passed others passed ∧ (applyOthers others linters).1 = unknownKeys passed := by
  induction others generalizing linters with
  | nil => exact ⟨[], ⟨[], rfl, by simp, by simp⟩, rfl⟩
  | cons entry rest ih =>
    obtain ⟨key, v⟩ := entry
    cases hname : Linter.ofName? key with
    | none =>
      obtain ⟨passed, hpassed, hwarnings⟩ := ih linters
      have hentry : ∀ d ∈ entryDemands (key, v), d.Holds := by simp [entryDemands_of_none hname]
      refine ⟨(key, v) :: passed, hpassed.cons hentry, ?_⟩
      simp [applyOthers, hname, hwarnings, unknownKeys]
    | some linter =>
      have hjudges := judges_readOverride hname v
      cases hread : readOverride linter v with
      | error e =>
        rw [hread] at hjudges
        have hfault := (hjudges.refused.mp rfl).exists_not_holds
        refine ⟨[], ⟨(key, v) :: rest, rfl, by simp, by simpa using hfault⟩, ?_⟩
        simp [applyOthers, hname, hread, unknownKeys]
      | ok o =>
        rw [hread] at hjudges
        obtain ⟨passed, hpassed, hwarnings⟩ := ih (applyOverride linter o.1 o.2 linters)
        refine ⟨(key, v) :: passed, hpassed.cons (hjudges.accepted.mp ⟨o, rfl⟩), ?_⟩
        simp [applyOthers, hname, hread, hwarnings, unknownKeys]

/-- Where a pattern of the whole run does not compile, no key is looked at. -/
lemma fst_ofSection (manifest : Path) (s : Section) :
    ((∃ d ∈ s.patternDemands, ¬ d.Holds) ∧ (ofSection manifest s).1 = []) ∨
    ((∀ d ∈ s.patternDemands, d.Holds) ∧ (ofSection manifest s).1 =
      (applyOthers s.others (catalog.map ResolvedLinter.ofSpec)).1) := by
  have hjudges : Judges s.patternDemands
      (compileInclude (s.include?.getD defaultInclude) >>= fun _ =>
        compileExclude (s.exclude?.getD [])) :=
    (judges_compileInclude _).bind _ fun _ _ => judges_compileExclude _
  unfold ofSection
  cases hinclude : compileInclude (s.include?.getD defaultInclude) with
  | error e =>
    rw [hinclude] at hjudges
    exact .inl ⟨(hjudges.refused.mp rfl).exists_not_holds, rfl⟩
  | ok includePattern =>
    rw [hinclude] at hjudges
    cases hexclude : compileExclude (s.exclude?.getD []) with
    | error e =>
      rw [hexclude] at hjudges
      exact .inl ⟨(hjudges.refused.mp rfl).exists_not_holds, rfl⟩
    | ok exclude =>
      rw [hexclude] at hjudges
      exact .inr ⟨hjudges.accepted.mp ⟨exclude, rfl⟩, rfl⟩

/-! ### Manifests -/

/-- What becomes of a section that the entries `t` at `tool.lint` give. -/
structure Section.Judged (s : Section) (t : Table)
    (outcome : List Warning × Except ConfigError Config) : Prop where
  /-- It is accepted if all demands are met. -/
  accepted : (∃ config, outcome.2 = .ok config) ↔ ∀ d ∈ s.demands, d.Holds
  /-- Otherwise the first demand that is not met is reported. -/
  refused : ∀ e, outcome.2 = .error e ↔ FirstFault s.demands e
  /-- Nothing is said of unknown keys where a pattern of the whole run does not compile. -/
  silent : (∃ d ∈ s.patternDemands, ¬ d.Holds) → outcome.1 = []
  /-- Otherwise the unknown keys before the first linter that is refused are warned about. -/
  warned : (∀ d ∈ s.patternDemands, d.Holds) →
    ∃ passed, Passed s.others passed ∧ outcome.1 = unknownKeys passed
  /-- The settings of the whole run and the other values are those that are given. -/
  reads : s.Reads t
  /-- The other keys are those that name no setting. -/
  keys : s.others.map (·.1) = (t.map (·.1)).filter (· ∉ Section.settings)
  /-- They stand in the order of their bytes. -/
  ascending : s.others.Pairwise fun a b => Text.bytes a.1 < Text.bytes b.1

/-- **Acceptance and precedence.** A text that is no document, or has no section of the right form,
is refused for that and without a warning. Of a section all demands are looked at in one order: the
include, the excludes as they are listed and then all together, for each key that names a linter, in
the order of their bytes, its table and the include in it, the jobs and the timeout. -/
theorem parse_reports_first_fault (manifest : Path) (contents : String) :
    (Toml.parse? contents = none → parse manifest contents = ([], .error (.notToml manifest))) ∧
    (∀ doc, Toml.parse? contents = some doc →
      (∀ cause, Section.ofDocument doc = .error cause →
        parse manifest contents = ([], .error (.malformed manifest cause))) ∧
      ∀ s, Section.ofDocument doc = .ok s →
        s.Judged (lintTable doc) (parse manifest contents)) := by
  refine ⟨fun hdoc => ?_, fun doc hdoc => ⟨fun cause hsection => ?_, fun s hsection => ?_⟩⟩
  · simp [parse, readSection, hdoc]
  · simp [parse, readSection, hdoc, hsection, Except.mapError]
  · have hparse : parse manifest contents = ofSection manifest s := by
      simp [parse, readSection, hdoc, hsection, Except.mapError]
    have hordered := Toml.ordered_of_parse? hdoc
    have hreads := reads_of_ofDocument hordered hsection
    have hascending := hreads.ascending_others (ordered_lintTable hordered (.refl _))
    have hjudges : Judges s.demands (ofSection manifest s).2 := judges_ofSection
    rw [hparse]
    refine ⟨hjudges.accepted, fun _ => hjudges.refused, fun hfault => ?_, fun hholds => ?_,
      hreads, hreads.map_key_others, hascending.imp Text.bytes_lt⟩
    · rcases fst_ofSection manifest s with ⟨-, hsilent⟩ | ⟨hholds, -⟩
      · exact hsilent
      · obtain ⟨d, hd, hnot⟩ := hfault
        exact absurd (hholds d hd) hnot
    · rcases fst_ofSection manifest s with ⟨⟨d, hd, hnot⟩, -⟩ | ⟨-, hwarned⟩
      · exact absurd (hholds d hd) hnot
      · rw [hwarned]
        exact exists_passed _ _

/-- A manifest with four faults and two unknown keys. -/
def faultyManifest : String :=
  "[tool.lint]\njobs = 0\ntimeout = 0\nzeta = 1\nalpha = true\n" ++
    "[tool.lint.flake8]\nenabled = 3\n[tool.lint.black]\ninclude = '('\n"

/-- Of the four faults the include of `black` is reported, whose key comes first, and of the unknown
keys only the one before it. -/
theorem parse_reports_first_fault_faultyManifest :
    let outcome := parse ⟨manifestName⟩ faultyManifest
    outcome.1 = [.unknownKey "alpha"] ∧
      ∃ (s : Section) (cause : Regex.Error), FirstFault s.demands (.badInclude "(" cause) ∧
        outcome.2 = .error (.badInclude "(" cause) := by
  obtain ⟨-, hjudged⟩ := parse_reports_first_fault ⟨manifestName⟩ faultyManifest
  have hread : ((Toml.parse? faultyManifest).map fun doc =>
      (Section.ofDocument doc).toOption.isSome) = some true := by decide +kernel
  have hwarnings : (parse ⟨manifestName⟩ faultyManifest).1 = [.unknownKey "alpha"] := by
    decide +kernel
  have hresult : (match (parse ⟨manifestName⟩ faultyManifest).2 with
      | .error (.badInclude pattern _) => pattern
      | _ => "") = "(" := by decide +kernel
  obtain ⟨doc, hdoc, hsection⟩ := Option.map_eq_some_iff.mp hread
  cases hs : Section.ofDocument doc with
  | error cause => simp [hs, Except.toOption] at hsection
  | ok s =>
    split at hresult
    next pattern cause heq =>
      subst hresult
      exact ⟨hwarnings, s, cause, (((hjudged doc hdoc).2 s hs).refused _).mp heq, heq⟩
    · exact absurd hresult (by decide)

end LintChain.Config

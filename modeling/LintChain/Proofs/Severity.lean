import LintChain.Report
import Mathlib.Logic.Relation
import Mathlib.Tactic.Common

/-!
How statuses add up. A file is as bad as its worst result, and of several equally bad ones the last
is told. So a part of a list counts through its own worst status alone. A run is a success when
every result is a pass: the code depends neither on an order nor on anything else about a result.
-/

namespace LintChain

/-! ### The worst of some statuses -/

namespace Status

variable {a b t : Status} {first second statuses : List Status}

@[simp] lemma pass_worse (a : Status) : worse pass a = a := by
  simp [worse, severity]

@[simp] lemma worse_pass (a : Status) : worse a pass = a := by
  cases a <;> simp [worse, severity]

lemma severity_worse (a b : Status) : (worse a b).severity = max a.severity b.severity := by
  unfold worse
  split <;> omega

lemma worse_assoc (a b c : Status) : worse (worse a b) c = worse a (worse b c) := by
  cases a <;> cases b <;> cases c <;> simp [worse, severity]

instance : Std.Associative worse := ⟨worse_assoc⟩

lemma worse_eq_pass_iff : worse a b = pass ↔ a = pass ∧ b = pass := by
  cases a <;> cases b <;> simp [worse, severity]

/-- A part counts through its own worst status alone. -/
lemma worst_append (first second : List Status) :
    worst (first ++ second) = worse (worst first) (worst second) := by
  have hfold : second.foldl worse (worse (worst first) pass) =
      worse (worst first) (second.foldl worse pass) := List.foldl_assoc
  rw [worse_pass] at hfold
  rw [worst, List.foldl_append]
  exact hfold

@[simp] lemma worst_cons (s : Status) (statuses : List Status) :
    worst (s :: statuses) = worse s (worst statuses) := by
  rw [← List.singleton_append, worst_append]
  simp [worst]

lemma worst_eq_pass_iff : worst statuses = pass ↔ ∀ s ∈ statuses, s = pass := by
  induction statuses with
  | nil => simp
  | cons s rest ih => simp [worse_eq_pass_iff, ih]

lemma severity_le_worst (h : t ∈ statuses) : t.severity ≤ (worst statuses).severity := by
  induction statuses with
  | nil => cases h
  | cons s rest ih =>
    rw [worst_cons, severity_worse]
    rcases List.mem_cons.mp h with rfl | hrest
    · exact Nat.le_max_left _ _
    · have := ih hrest
      omega

end Status

/-! ### The results of a file -/

/-- The last of the worst results: none before it is worse, and all after it are better. -/
def IsLastWorst (results : List ToolResult) (r : ToolResult) : Prop :=
  ∃ before after, results = before ++ r :: after ∧
    (∀ x ∈ before, x.status.severity ≤ r.status.severity) ∧
    ∀ x ∈ after, x.status.severity < r.status.severity

namespace FileReport

lemma exists_isLastWorst {results : List ToolResult} (h : results ≠ []) :
    ∃ r, IsLastWorst results r ∧ Status.worst (results.map (·.status)) = r.status := by
  induction results with
  | nil => exact absurd rfl h
  | cons x rest ih =>
    rw [List.map_cons, Status.worst_cons]
    have hle : ∀ y ∈ rest, y.status.severity ≤ (Status.worst (rest.map (·.status))).severity :=
      fun y hy => Status.severity_le_worst (List.mem_map_of_mem hy)
    by_cases hlast :
        rest = [] ∨ (Status.worst (rest.map (·.status))).severity < x.status.severity
    · -- nothing after the first result is as bad
      refine ⟨x, ⟨[], rest, rfl, by simp, ?_⟩, ?_⟩
      · rintro y hy
        rcases hlast with rfl | hlt
        · cases hy
        · exact Nat.lt_of_le_of_lt (hle y hy) hlt
      · rcases hlast with rfl | hlt
        · simp
        · rw [Status.worse, if_neg (Nat.not_le_of_lt hlt)]
    · rw [not_or, Nat.not_lt] at hlast
      obtain ⟨r, ⟨before, after, hsplit, hbefore, hafter⟩, hworst⟩ := ih hlast.1
      have hr : x.status.severity ≤ r.status.severity := hworst ▸ hlast.2
      refine ⟨r, ⟨x :: before, after, by rw [hsplit, List.cons_append], ?_, hafter⟩, ?_⟩
      · exact List.forall_mem_cons.mpr ⟨hr, hbefore⟩
      · rw [Status.worse, if_pos hlast.2, hworst]

lemma status_eq_pass_iff {file : FileReport} :
    file.status = .pass ↔ ∀ r ∈ file.results, r.status = .pass := by
  simp [status, Status.worst_eq_pass_iff]

lemma status_append (path : Path) (first second : List ToolResult) :
    status ⟨path, first ++ second⟩ = (status ⟨path, first⟩).worse (status ⟨path, second⟩) := by
  simp only [status, List.map_append, Status.worst_append]

end FileReport

/-! ### The files of a run -/

/-- Another account of the same verdict: only the reason of a tool error may be a different one. -/
structure ToolResult.Retold (r r' : ToolResult) : Prop where
  linter_eq : r'.linter = r.linter
  status_eq : r'.status = r.status ∨ r.status.isToolError ∧ r'.status.isToolError

/-- One change to the files of a run that makes no result better or worse. -/
inductive Reworked : List FileReport → List FileReport → Prop
  | files {files files' : List FileReport} (h : files.Perm files') : Reworked files files'
  | results {before after : List FileReport} {path : Path} {results results' : List ToolResult}
      (h : results.Perm results') :
      Reworked (before ++ ⟨path, results⟩ :: after) (before ++ ⟨path, results'⟩ :: after)
  | idle {before after : List FileReport} {path : Path} :
      Reworked (before ++ after) (before ++ ⟨path, []⟩ :: after)
  | retold {before after : List FileReport} {path : Path} {first last : List ToolResult}
      {r r' : ToolResult} (h : r.Retold r') :
      Reworked (before ++ ⟨path, first ++ r :: last⟩ :: after)
        (before ++ ⟨path, first ++ r' :: last⟩ :: after)

/-- Every linter passed on every file. -/
def AllPass (files : List FileReport) : Prop :=
  ∀ file ∈ files, ∀ r ∈ file.results, r.status = .pass

variable {files files' : List FileReport} {file : FileReport}

lemma allPass_append : AllPass (files ++ files') ↔ AllPass files ∧ AllPass files' :=
  List.forall_mem_append

lemma allPass_cons :
    AllPass (file :: files) ↔ (∀ r ∈ file.results, r.status = .pass) ∧ AllPass files :=
  List.forall_mem_cons

lemma ToolResult.Retold.pass_iff {r r' : ToolResult} (h : r.Retold r') :
    r.status = .pass ↔ r'.status = .pass := by
  rcases h.status_eq with heq | ⟨herror, herror'⟩
  · rw [heq]
  · have hne : ∀ {s : Status}, s.isToolError = true → s ≠ .pass := by
      rintro s hs rfl
      cases hs
    exact iff_of_false (hne herror) (hne herror')

/-- What one change keeps. -/
lemma Reworked.allPass_iff (h : Reworked files files') : AllPass files ↔ AllPass files' := by
  cases h with
  | files hperm => simp only [AllPass, hperm.mem_iff]
  | results hperm => simp only [allPass_append, allPass_cons, hperm.mem_iff]
  | idle => simp [allPass_append, allPass_cons]
  | retold hretold =>
    simp only [allPass_append, allPass_cons, List.forall_mem_append, List.forall_mem_cons,
      hretold.pass_iff]

/-- What any number of changes keeps. -/
lemma allPass_iff_of_reworked (h : Relation.ReflTransGen Reworked files files') :
    AllPass files ↔ AllPass files' := by
  induction h with
  | refl => rfl
  | tail _ hstep ih => exact ih.trans hstep.allPass_iff

namespace RunReport

variable {run : RunReport}

lemma isSuccess_iff : run.isSuccess ↔ AllPass run.files := by
  simp [isSuccess, AllPass, Status.isPass_iff, FileReport.status_eq_pass_iff]

lemma exitCode_eq_zero_iff :
    run.exitCode = 0 ↔ ∀ file ∈ run.files, ∀ result ∈ file.results, result.status = .pass := by
  rw [exitCode, ← AllPass, ← isSuccess_iff]
  split <;> simp_all

lemma exitCode_eq_zero_or_one (run : RunReport) : run.exitCode = 0 ∨ run.exitCode = 1 := by
  unfold exitCode
  split
  · exact .inl rfl
  · exact .inr rfl

lemma exitCode_eq_one_iff : run.exitCode = 1 ↔ ¬ AllPass run.files := by
  have hzero : run.exitCode = 0 ↔ AllPass run.files := exitCode_eq_zero_iff
  rw [← hzero]
  have := run.exitCode_eq_zero_or_one
  omega

/-- **Results decide, by their severity alone.** A file passes if all its results do; otherwise it
has the status of the last of its worst results, with the reason given there. Of two parts of a
list the second decides unless the first is worse. A run is a success, and ends with code 0, if
every result of every file is a pass; otherwise it ends with code 1. Neither depends on an order, on
files without results, or on what else is told of a result. -/
theorem results_decide :
    (∀ file : FileReport, (file.status = .pass ↔ ∀ r ∈ file.results, r.status = .pass) ∧
      (file.results ≠ [] → ∃ r, IsLastWorst file.results r ∧ file.status = r.status)) ∧
    (∀ (path : Path) (first second : List ToolResult),
      let ofFirst := FileReport.status ⟨path, first⟩
      let ofSecond := FileReport.status ⟨path, second⟩
      FileReport.status ⟨path, first ++ second⟩ =
        if ofFirst.severity ≤ ofSecond.severity then ofSecond else ofFirst) ∧
    (∀ run : RunReport, (run.isSuccess ↔ AllPass run.files) ∧
      (run.exitCode = 0 ↔ AllPass run.files) ∧ (run.exitCode = 1 ↔ ¬ AllPass run.files)) ∧
    ∀ run run' : RunReport, Relation.ReflTransGen Reworked run.files run'.files →
      run'.isSuccess = run.isSuccess ∧ run'.exitCode = run.exitCode := by
  refine ⟨fun file => ⟨FileReport.status_eq_pass_iff, FileReport.exists_isLastWorst⟩,
    FileReport.status_append, fun run => ⟨isSuccess_iff, exitCode_eq_zero_iff, exitCode_eq_one_iff⟩,
    fun run run' hreworked => ?_⟩
  have hsuccess : run'.isSuccess = run.isSuccess := by
    rw [Bool.eq_iff_iff, isSuccess_iff, isSuccess_iff]
    exact (allPass_iff_of_reworked hreworked).symm
  exact ⟨hsuccess, by rw [exitCode, exitCode, hsuccess]⟩

/-- Of two tool errors the later one is told, also before findings; another order of the results,
another reason and a file without results leave the code as it is. -/
theorem results_decide_errors :
    let crashed : ToolResult := ⟨.isort, "", "", some 3, .toolError (.crashed 3), true⟩
    let killed : ToolResult := ⟨.black, "", "", none, .toolError .signalled, false⟩
    let noted : ToolResult := ⟨.flake8, "E501", "", some 1, .findings, false⟩
    let retold : ToolResult := ⟨.black, "", "!", some 7, .toolError (.crashed 7), true⟩
    let run : RunReport := ⟨.empty, [⟨⟨"a.py"⟩, [crashed, killed, noted]⟩]⟩
    let run' : RunReport := ⟨.empty, [⟨⟨"a.py"⟩, [retold, crashed, noted]⟩, ⟨⟨"b.py"⟩, []⟩]⟩
    (∃ r, IsLastWorst [crashed, killed, noted] r ∧
      FileReport.status ⟨⟨"a.py"⟩, [crashed, killed, noted]⟩ = r.status) ∧
    run'.isSuccess = run.isSuccess ∧ run'.exitCode = run.exitCode := by
  intro crashed killed noted retold run run'
  have hswap : Reworked run.files [⟨⟨"a.py"⟩, [killed, crashed, noted]⟩] :=
    @Reworked.results [] [] _ _ _ (.swap _ _ _)
  have hretold : Reworked [⟨⟨"a.py"⟩, [killed, crashed, noted]⟩]
      [⟨⟨"a.py"⟩, [retold, crashed, noted]⟩] :=
    @Reworked.retold [] [] _ [] _ _ _ ⟨rfl, .inr ⟨rfl, rfl⟩⟩
  have hidle : Reworked [⟨⟨"a.py"⟩, [retold, crashed, noted]⟩] run'.files :=
    @Reworked.idle [⟨⟨"a.py"⟩, [retold, crashed, noted]⟩] [] _
  exact ⟨(results_decide.1 ⟨⟨"a.py"⟩, [crashed, killed, noted]⟩).2 (by simp),
    results_decide.2.2.2 run run' (((Relation.ReflTransGen.single hswap).tail hretold).tail hidle)⟩

end RunReport

end LintChain

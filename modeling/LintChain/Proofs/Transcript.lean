import LintChain.Proofs.ExitCode
import LintChain.Proofs.Looks
import Mathlib.Data.List.Nodup

/-!
The text of a run. A writer that refuses nothing ends up with all lines of all stages, and these are
the progress of the probes, what is wrong with the tools or which files there are, the results file
by file, and a verdict. The verdict agrees with the exit code.
-/

namespace LintChain

/-! ### What a writer takes -/

/-- The text of lines, each with its line feed. -/
def Line.textOf (lines : List Line) : String :=
  String.join (lines.map fun line => line.text ++ "\n")

@[simp] lemma Line.textOf_nil : textOf [] = "" := rfl

@[simp] lemma Line.textOf_cons (line : Line) (lines : List Line) :
    textOf (line :: lines) = line.text ++ "\n" ++ textOf lines := by
  simp [textOf]

@[simp] lemma Line.textOf_append (xs ys : List Line) :
    textOf (xs ++ ys) = textOf xs ++ textOf ys := by
  simp [textOf]

lemma Line.textOf_ne_empty {lines : List Line} (h : lines ≠ []) : textOf lines ≠ "" := by
  obtain ⟨line, rest, rfl⟩ := List.exists_cons_of_ne_nil h
  simp [String.append_eq_empty_iff]

namespace Writer

variable {ω : Type} {writer : Writer ω} (hwriter : writer.Reliable) (hlaw : writer.Lawful)

include hwriter hlaw

lemma accepted_writePieces (pieces : List String) (out : ω) :
    writer.accepted (writer.writePieces pieces out).2 =
      writer.accepted out ++ String.join pieces := by
  induction pieces generalizing out with
  | nil => simp
  | cons piece rest ih =>
    have hw := hwriter.write piece out
    rcases hout : writer.write piece out with ⟨result, out'⟩
    rw [hout] at hw
    obtain rfl : result = .ok () := hw
    simp [writePieces, hout, ih, hlaw.accepted_of_ok hout, String.append_assoc]

lemma accepted_writeLines (lines : List Line) (out : ω) :
    writer.accepted (writer.writeLines lines out).2 =
      writer.accepted out ++ Line.textOf lines := by
  induction lines generalizing out with
  | nil => simp
  | cons line rest ih =>
    have hw := hwriter.writePieces (line.pieces ++ ["\n"]) out
    have htext := accepted_writePieces hwriter hlaw (line.pieces ++ ["\n"]) out
    rcases hout : writer.writeLine line out with ⟨result, out'⟩
    rw [← writeLine, hout] at hw htext
    obtain rfl : result = .ok () := hw
    simp only at htext
    simp [writeLines, hout, ih, htext, Line.text, String.append_assoc]

omit hwriter hlaw in
lemma writeLines_collect (lines : List Line) (full : String) :
    collect.writeLines lines full = (.ok (), full ++ Line.textOf lines) := by
  have hok := reliable_collect.writeLines lines full
  have htext := accepted_writeLines reliable_collect lawful_collect lines full
  rcases hwrite : collect.writeLines lines full with ⟨r, after⟩
  rw [hwrite] at hok htext
  exact congrArg₂ Prod.mk hok htext

end Writer

/-! ### What is to be written -/

/-- The enabled linters of a configuration, in canonical order. -/
def Config.roster (config : Config) : List Linter :=
  Linter.all.filter fun l => config.linters.any fun r => r.linter = l && r.enabled

/-- The roster of a configuration that knows all linters. -/
lemma Config.roster_eq {config : Config} (h : config.linters.map (·.linter) = Linter.all) :
    config.roster = config.enabledLinters.map (·.linter) := by
  have hnodup : (config.linters.map (·.linter)).Nodup := h ▸ by decide
  rw [roster, ← h, List.filter_map, enabledLinters]
  refine congrArg (List.map _) (List.filter_congr fun r hr => ?_)
  -- of the entries only `r` itself is about its linter
  have hiff : (config.linters.any fun r' => r'.linter = r.linter && r'.enabled) = true ↔
      r.enabled = true := by
    rw [List.any_eq_true]
    refine ⟨?_, fun henabled => ⟨r, hr, by simp [henabled]⟩⟩
    rintro ⟨r', hr', h'⟩
    obtain ⟨hlinter, henabled⟩ : r'.linter = r.linter ∧ r'.enabled = true := by simpa using h'
    rwa [← List.inj_on_of_nodup_map hnodup hr' hr hlinter]
  exact Bool.eq_iff_iff.mpr hiff

namespace Report

/-- What is said about one file: its path, and what is noteworthy about each result. -/
def block (path : Path) (results : List ToolResult) : List Line :=
  pathLine "- " path :: results.flatMap (resultLines path)

/-- The lines about the files of a run, once all tools can be used. -/
def outcomeLines (paths : List Path) (results : List (List ToolResult)) : List Line :=
  if paths = [] then [.ofText noFiles]
  else
    .ofText "Linting the following files:" :: paths.map (pathLine "- ") ++
      .ofText "Results:" :: (List.zipWith block paths results).flatten ++
      [.ofText (if ∀ file ∈ results, ∀ result ∈ file, result.status = .pass then lintSucceeded
        else lintFailed)]

/-- All lines of a run, by whether progress is asked for, the enabled linters, what their probes
came to, the files, and what was found in each file. -/
def transcript (progress : Bool) (linters : List Linter) (report : BootstrapReport)
    (paths : List Path) (results : List (List ToolResult)) : List Line :=
  (if progress then linters.map fun l => .ofText (progressLine l) else []) ++
    if (paths ≠ [] ∨ progress) ∧ ∃ probed ∈ report.results, ¬ probed.outcome.isAvailable then
      (report.results.filter fun probed => ¬ probed.outcome.isAvailable).flatMap probedLines ++
        [.ofText bootstrapFailed]
    else
      (if progress then [.ofText bootstrapSucceeded] else []) ++ outcomeLines paths results

section Lines

variable {progress : Bool} {linters : List Linter} {report : BootstrapReport} {paths : List Path}
  {results : List (List ToolResult)}

lemma transcript_of_idle : transcript false linters report [] results = [.ofText noFiles] := by
  simp [transcript, outcomeLines]

lemma transcript_of_unavailable (hbusy : paths ≠ [] ∨ progress = true) (h : ¬ report.isSuccess) :
    transcript progress linters report paths results =
      (if progress then progressLines linters else []) ++ failureLines report := by
  have hbad : ∃ probed ∈ report.results, ¬ probed.outcome.isAvailable := by
    simpa [BootstrapReport.isSuccess] using h
  refine congrArg₂ (· ++ ·) rfl ((if_pos ⟨hbusy, hbad⟩).trans ?_)
  simp [failureLines, BootstrapReport.failures]

lemma transcript_of_available (h : report.isSuccess) :
    transcript progress linters report paths results =
      (if progress then progressLines linters else []) ++
        ((if progress then [.ofText bootstrapSucceeded] else []) ++
          outcomeLines paths results) := by
  have hgood : ¬ ∃ probed ∈ report.results, ¬ probed.outcome.isAvailable := by
    simpa [BootstrapReport.isSuccess] using h
  exact congrArg₂ (· ++ ·) rfl (if_neg fun h => hgood h.2)

/-- The list of the files and the results are those of the reports on the files, if each file has
one. -/
lemma outcomeLines_of_ne_nil (report : BootstrapReport) {files : List FileReport}
    (hsome : paths ≠ []) (hpaths : files.map (·.path) = paths) :
    outcomeLines paths (files.map (·.results)) =
      fileListLines paths ++ runLines ⟨report, files⟩ := by
  have hfiles : files ≠ [] := by
    rintro rfl
    exact hsome hpaths.symm
  have hblocks : (List.zipWith block paths (files.map (·.results))).flatten =
      files.flatMap fileLines := by
    rw [← hpaths, List.zipWith_map, List.zipWith_self, List.flatMap_def]
    rfl
  have hverdict : (RunReport.mk report files).isSuccess ↔
      ∀ file ∈ files, ∀ result ∈ file.results, result.status = .pass := by
    simp [RunReport.isSuccess, FileReport.status, Status.isPass_iff, Status.worst_eq_pass_iff]
  rw [outcomeLines, if_neg hsome, hblocks]
  simp [fileListLines, runLines, hsome, hfiles, hverdict, verdict]

end Lines

end Report

/-! ### What is written -/

namespace Setting

variable {σ ω α β : Type} (m : Setting σ ω)

/-- The stage comes to `r`, leaves the session `s`, and writes the lines. -/
def Writes (x : Stage σ ω α) (p : Progress σ ω) (r : Except LintError α) (s : Session σ)
    (lines : List Line) : Prop :=
  ∃ out, x p = (r, ⟨s, out⟩) ∧ m.writer.accepted out = m.writer.accepted p.out ++ Line.textOf lines

variable {m} {inv : Invocation} {x : Stage σ ω α} {f : α → Stage σ ω β} {p : Progress σ ω} {a : α}
  {e : LintError} {r : Except LintError β} {s t : Session σ} {lines lines' : List Line}
  {config : Config} {targets : List Target} {report : BootstrapReport}

namespace Writes

lemma of_eq {r : Except LintError α} (h : x p = (r, ⟨s, p.out⟩)) : m.Writes x p r s [] :=
  ⟨p.out, h, by simp⟩

lemma congr {y : Stage σ ω α} {q : Progress σ ω} {r : Except LintError α}
    (hy : m.Writes y q r s lines) (h : x p = y q) (hout : p.out = q.out) :
    m.Writes x p r s lines := by
  unfold Writes
  rwa [h, hout]

lemma bind (hx : m.Writes x p (.ok a) s lines)
    (hf : ∀ out, m.Writes (f a) ⟨s, out⟩ r t lines') :
    m.Writes (x >>= f) p r t (lines ++ lines') := by
  obtain ⟨out, hx, htext⟩ := hx
  obtain ⟨out', hf, htext'⟩ := hf out
  exact ⟨out', (Stage.bind_of_ok hx).trans hf, by simp [htext', htext, String.append_assoc]⟩

/-- A first stage that writes nothing. -/
lemma bind_silent (hx : x p = (.ok a, ⟨s, p.out⟩)) (hf : m.Writes (f a) ⟨s, p.out⟩ r t lines) :
    m.Writes (x >>= f) p r t lines :=
  hf.congr (Stage.bind_of_ok hx) rfl

/-- A second stage that writes nothing. -/
lemma then_silent (hx : m.Writes x p (.ok a) s lines) (hf : ∀ out, f a ⟨s, out⟩ = (r, ⟨t, out⟩)) :
    m.Writes (x >>= f) p r t lines := by
  obtain ⟨out, hx, htext⟩ := hx
  exact ⟨out, (Stage.bind_of_ok hx).trans (hf out), htext⟩

/-- What the lines of a run are once the chain has come to a report. -/
lemma run_of_ok {run : RunReport} (h : m.Writes (m.lint inv) p (.ok run) s lines) :
    m.Writes (m.run inv) p (.ok run.exitCode) s lines := by
  obtain ⟨out, hlint, htext⟩ := h
  refine ⟨out, ?_, htext⟩
  rw [run_apply, hlint]
  rfl

lemma run_of_workers {e : TooManyWorkers}
    (h : m.Writes (m.lint inv) p (.error (.workers e)) s lines) :
    m.Writes (m.run inv) p (.error (.workers e)) s lines := by
  obtain ⟨out, hlint, htext⟩ := h
  refine ⟨out, ?_, htext⟩
  rw [run_apply, hlint]
  rfl

section Reliable

variable (hwriter : m.writer.Reliable) (hlaw : m.writer.Lawful)

include hwriter hlaw

lemma writeLines (lines : List Line) (p : Progress σ ω) :
    m.Writes (m.writeLines lines) p (.ok ()) p.session lines := by
  refine ⟨(m.writer.writeLines lines p.out).2, ?_,
    Writer.accepted_writeLines hwriter hlaw lines p.out⟩
  rw [writeLines_apply, hwriter.writeLines]
  rfl

lemma writeIf (wanted : Bool) (lines : List Line) (p : Progress σ ω) :
    m.Writes (m.writeIf wanted lines) p (.ok ()) p.session (if wanted then lines else []) := by
  cases wanted with
  | false => exact .of_eq rfl
  | true => exact .writeLines hwriter hlaw lines p

lemma writeResults (run : RunReport) (p : Progress σ ω) :
    m.Writes (m.writeResults run) p (.ok run) p.session (Report.runLines run) := by
  have hflush : ∀ out : ω, m.Writes (do m.flush; return run) ⟨p.session, out⟩ (.ok run) p.session
      [] := by
    intro out
    refine ⟨(m.writer.flush out).2, Stage.bind_of_ok (a := ()) ?_, ?_⟩
    · rw [flush_apply, hwriter.flush]
      rfl
    · simp [hlaw.accepted_flush]
  have hboth : m.Writes (m.writeResults run) p (.ok run) p.session (Report.runLines run ++ []) :=
    .bind (.writeLines hwriter hlaw _ p) hflush
  rwa [List.append_nil] at hboth

/-- What is wrong with the tools ends a run. -/
lemma run_of_bootstrap (h : m.Writes (m.lint inv) p (.error (.bootstrap report)) s lines) :
    m.Writes (m.run inv) p (.ok 1) s (lines ++ Report.failureLines report) := by
  obtain ⟨out, hlint, htext⟩ := h
  have hclosing : m.Writes (do m.writeLines (closingLines (.bootstrap report)); return 1 :
      Stage σ ω Nat) ⟨s, out⟩ (.ok 1) s (Report.failureLines report) :=
    .then_silent (.writeLines hwriter hlaw _ _) fun _ => rfl
  obtain ⟨out', hclosing, htext'⟩ := hclosing
  refine ⟨out', ?_, by simp [htext', htext, String.append_assoc]⟩
  rw [run_apply, hlint]
  exact hclosing

end Reliable

end Writes

section Lint

variable (hwriter : m.writer.Reliable) (hlaw : m.writer.Lawful)

include hwriter hlaw

lemma writes_lintListed (hsome : targets ≠ []) {files : List FileReport}
    (hexecute : (plan inv config report).execute m.host m.env targets
      (engaged inv config report s) = (.ok files, t)) (out : ω) :
    m.Writes (m.lintListed inv config targets report) ⟨s, out⟩ (.ok ⟨report, files⟩) t
      (Report.fileListLines (targets.map (·.path)) ++ Report.runLines ⟨report, files⟩) := by
  have htargets : ∀ out, m.lintTargets inv config report targets ⟨s, out⟩ =
      (.ok files, ⟨t, out⟩) := fun out => lintTargets_of_execute (p := ⟨s, out⟩) hexecute
  refine .bind (.writeLines hwriter hlaw _ _) fun out => ?_
  rw [List.isEmpty_eq_false_iff.mpr hsome]
  exact .bind_silent (htargets out) (.writeResults hwriter hlaw ⟨report, files⟩ _)

/-- Too many workers end a run after the list of the files. -/
lemma writes_lintListed_of_error (hsome : targets ≠ []) {e : TooManyWorkers}
    (hexecute : (plan inv config report).execute m.host m.env targets
      (engaged inv config report s) = (.error e, t)) (out : ω) :
    m.Writes (m.lintListed inv config targets report) ⟨s, out⟩ (.error (.workers e)) t
      (Report.fileListLines (targets.map (·.path))) := by
  have htargets : ∀ out, m.lintTargets inv config report targets ⟨s, out⟩ =
      (.error (.workers e), ⟨t, out⟩) := fun out => lintTargets_of_execute (p := ⟨s, out⟩) hexecute
  refine .then_silent (.writeLines hwriter hlaw _ _) fun out => ?_
  rw [List.isEmpty_eq_false_iff.mpr hsome]
  exact Stage.bind_of_error (htargets out)

variable (hconfig : m.configured inv p.session.machine = .ok config)

include hconfig

lemma writes_lint_of_idle (hnone : m.selected inv config p.session.machine = [])
    (hflag : inv.bootstrap = false) :
    m.Writes (m.lint inv) p (.ok .empty) (m.prepared inv config p.session)
      [.ofText Report.noFiles] :=
  .congr (.then_silent (.writeLines hwriter hlaw _ _) fun _ => rfl)
    (lint_of_idle hconfig hnone hflag) rfl

variable (hbusy : m.selected inv config p.session.machine ≠ [] ∨ inv.bootstrap = true)

include hbusy

/-- Without a usable tool for every linter only the progress is written before the verdict. -/
lemma writes_lint_of_unavailable (h : ¬ (m.bootstrapped inv config p.session).1.isSuccess) :
    m.Writes (m.lint inv) p (.error (.bootstrap (m.bootstrapped inv config p.session).1))
      (m.bootstrapped inv config p.session).2
      (if inv.bootstrap then Report.progressLines (config.enabledLinters.map (·.linter))
        else []) := by
  have hprobes : ∀ out, m.bootstrap inv config ⟨m.prepared inv config p.session, out⟩ =
      (.error (.bootstrap (m.bootstrapped inv config p.session).1),
        ⟨(m.bootstrapped inv config p.session).2, out⟩) :=
    fun out => bootstrap_apply.trans (congrArg₂ Prod.mk (if_neg h) rfl)
  have hlint := lint_of_busy hconfig hbusy
  rw [lintDiscovered_eq] at hlint
  refine .congr (.then_silent (.writeIf hwriter hlaw _ _ _) fun out => ?_) hlint rfl
  exact Stage.bind_of_error (hprobes out)

/-- With a usable tool for every linter a run goes on with the files. -/
lemma writes_lint_of_available (h : (m.bootstrapped inv config p.session).1.isSuccess)
    {r : Except LintError RunReport}
    (hlisted : ∀ out, m.Writes (m.lintListed inv config (m.selected inv config p.session.machine)
      (m.bootstrapped inv config p.session).1) ⟨(m.bootstrapped inv config p.session).2, out⟩ r t
      lines) :
    m.Writes (m.lint inv) p r t
      ((if inv.bootstrap then Report.progressLines (config.enabledLinters.map (·.linter))
          else []) ++
        ((if inv.bootstrap then [.ofText Report.bootstrapSucceeded] else []) ++ lines)) := by
  have hprobes : ∀ out, m.bootstrap inv config ⟨m.prepared inv config p.session, out⟩ =
      (.ok (m.bootstrapped inv config p.session).1,
        ⟨(m.bootstrapped inv config p.session).2, out⟩) :=
    fun out => bootstrap_apply.trans (congrArg₂ Prod.mk (if_pos h) rfl)
  have hlint := lint_of_busy hconfig hbusy
  rw [lintDiscovered_eq] at hlint
  refine .congr (.bind (.writeIf hwriter hlaw _ _ _) fun out => ?_) hlint rfl
  exact .bind_silent (hprobes out) (.bind (.writeIf hwriter hlaw _ _ _) hlisted)

end Lint

/-! ### The shape of the text -/

/-- A text ends with a line. -/
def EndsWith (text line : String) : Prop := ∃ before, text = before ++ line ++ "\n"

variable (m inv) in
/-- The lines of a run under a configuration, by what the machine comes to. -/
def expected (config : Config) (s : Session σ) : List Line :=
  Report.transcript inv.bootstrap config.roster (m.bootstrapped inv config s).1
    ((m.selected inv config s.machine).map (·.path)) ((m.linted inv config s).map (·.results))

lemma map_path_linted (config : Config) (s : Session σ) :
    (m.linted inv config s).map (·.path) = (m.selected inv config s.machine).map (·.path) := by
  have hpairs : (m.linted inv config s).map _ = (m.selected inv config s.machine).map _ :=
    Plan.map_lintFiles
  simpa [Function.comp_def] using congrArg (List.map Prod.fst) hpairs

/-- A run ends with a code and a verdict that agree with each other. -/
inductive Verdict : Nat → String → Prop
  | good {verdict : String} (h : verdict = Report.lintSucceeded ∨ verdict = Report.noFiles) :
      Verdict 0 verdict
  | bad {verdict : String} (h : verdict = Report.lintFailed ∨ verdict = Report.bootstrapFailed) :
      Verdict 1 verdict

lemma verdict_exitCode (run : RunReport) :
    Verdict run.exitCode (Report.verdict run.isSuccess) := by
  unfold RunReport.exitCode Report.verdict
  cases run.isSuccess with
  | true => exact .good (.inl rfl)
  | false => exact .bad (.inl rfl)

variable (m inv p) in
/-- A run ends with a code, and its lines with a verdict that agrees with the code. -/
def Concludes (lines : List Line) : Prop :=
  ∃ code t verdict, m.Writes (m.run inv) p (.ok code) t lines ∧
    lines.getLast? = some (.ofText verdict) ∧ Verdict code verdict

section Run

variable (hwriter : m.writer.Reliable) (hlaw : m.writer.Lawful)
  (hconfig : m.configured inv p.session.machine = .ok config)

include hwriter hlaw hconfig

lemma concludes_of_idle (hnone : m.selected inv config p.session.machine = [])
    (hflag : inv.bootstrap = false) : m.Concludes inv p (m.expected inv config p.session) := by
  rw [expected, hnone, hflag, List.map_nil, Report.transcript_of_idle]
  exact ⟨_, _, _, (writes_lint_of_idle hwriter hlaw hconfig hnone hflag).run_of_ok, rfl,
    .good (.inr rfl)⟩

variable (hbusy : m.selected inv config p.session.machine ≠ [] ∨ inv.bootstrap = true)

include hbusy

lemma concludes_of_unavailable (h : ¬ (m.bootstrapped inv config p.session).1.isSuccess) :
    m.Concludes inv p (m.expected inv config p.session) := by
  have hwrites := writes_lint_of_unavailable hwriter hlaw hconfig hbusy h
  rw [expected, Report.transcript_of_unavailable (by simpa using hbusy) h,
    Config.roster_eq (linters_of_configured hconfig)]
  exact ⟨_, _, _, hwrites.run_of_bootstrap hwriter hlaw, by simp [Report.failureLines],
    .bad (.inr rfl)⟩

lemma concludes_of_available (h : (m.bootstrapped inv config p.session).1.isSuccess)
    (hjobs : m.selected inv config p.session.machine ≠ [] → Plan.Countable config.jobs?) :
    m.Concludes inv p (m.expected inv config p.session) := by
  rw [expected, Report.transcript_of_available h, Config.roster_eq (linters_of_configured hconfig)]
  by_cases hnone : m.selected inv config p.session.machine = []
  · -- nothing but the probes
    have hlisted : ∀ out, m.Writes
        (m.lintListed inv config [] (m.bootstrapped inv config p.session).1)
        ⟨(m.bootstrapped inv config p.session).2, out⟩
        (.ok ⟨(m.bootstrapped inv config p.session).1, []⟩) (m.bootstrapped inv config p.session).2
        [.ofText Report.noFiles] :=
      fun out => .then_silent (.writeLines hwriter hlaw _ _) fun _ => rfl
    rw [← hnone] at hlisted
    have hwrites := writes_lint_of_available hwriter hlaw hconfig hbusy h hlisted
    rw [hnone]
    exact ⟨_, _, _, hwrites.run_of_ok, by simp [Report.outcomeLines], .good (.inr rfl)⟩
  · have hexecute : (plan inv config (m.bootstrapped inv config p.session).1).execute m.host m.env
        (m.selected inv config p.session.machine) (m.ready inv config p.session) = _ :=
      Plan.execute_of_countable (hjobs hnone)
    have hwrites := writes_lint_of_available hwriter hlaw hconfig hbusy h
      (writes_lintListed hwriter hlaw hnone hexecute)
    rw [Report.outcomeLines_of_ne_nil (m.bootstrapped inv config p.session).1
      (by simpa using hnone) (map_path_linted config p.session)]
    exact ⟨_, _, _, hwrites.run_of_ok, by simp [Report.runLines, linted, ready],
      verdict_exitCode _⟩

end Run

lemma Verdict.endsWith_iff {code : Nat} {verdict : String} (h : Verdict code verdict)
    (before : String) :
    EndsWith (before ++ verdict ++ "\n") Report.lintSucceeded ∨
      EndsWith (before ++ verdict ++ "\n") Report.noFiles ↔ code = 0 := by
  cases h with
  | good h =>
    rcases h with rfl | rfl
    · exact iff_of_true (.inl ⟨before, rfl⟩) rfl
    · exact iff_of_true (.inr ⟨before, rfl⟩) rfl
  | bad h =>
    -- the last letters differ
    refine iff_of_false ?_ Nat.one_ne_zero
    rintro (⟨other, heq⟩ | ⟨other, heq⟩) <;> rcases h with rfl | rfl <;>
      simpa [Report.lintSucceeded, Report.noFiles, Report.lintFailed, Report.bootstrapFailed] using
        congrArg (fun text : String => text.toList.reverse.take 3) heq

/-- **The text of a run.** Let the writer refuse nothing, and let no more workers be asked for than
can be counted once there is work for them. Then the text of a run under a configuration is the
transcript of what the probes of the enabled linters came to, each of them in canonical order, and
of what the reports say about the files, each of them under the path that the list of the files has
given. It ends with the verdict of success, or by saying that there are no files, exactly if the
code of the run is 0. -/
theorem text_of_run (hwriter : m.writer.Reliable) (hlaw : m.writer.Lawful)
    (hconfig : m.configured inv p.session.machine = .ok config)
    (hjobs : m.selected inv config p.session.machine ≠ [] → m.AllAvailable inv config p.session →
      Plan.Countable config.jobs?) :
    let report := (m.bootstrapped inv config p.session).1
    let paths := (m.selected inv config p.session.machine).map (·.path)
    let files := m.linted inv config p.session
    let text := Line.textOf (Report.transcript inv.bootstrap config.roster report paths
      (files.map (·.results)))
    m.writer.accepted (m.run inv p).2.out = m.writer.accepted p.out ++ text ∧
    ((m.run inv p).1 = .ok 0 ∨ (m.run inv p).1 = .ok 1) ∧
    (EndsWith text Report.lintSucceeded ∨ EndsWith text Report.noFiles ↔ (m.run inv p).1 = .ok 0) ∧
    report.results.map (·.linter) = config.roster ∧
    config.roster.Pairwise (fun a b => a.position < b.position) ∧
    files.map (·.path) = paths ∧
    (paths ≠ [] → report.isSuccess → (m.lint inv p).1 = .ok ⟨report, files⟩) := by
  intro report paths files text
  have hroster := Config.roster_eq (linters_of_configured hconfig)
  have hconcludes : m.Concludes inv p (m.expected inv config p.session) := by
    by_cases hidle : m.selected inv config p.session.machine = [] ∧ inv.bootstrap = false
    · exact concludes_of_idle hwriter hlaw hconfig hidle.1 hidle.2
    have hbusy : m.selected inv config p.session.machine ≠ [] ∨ inv.bootstrap = true := by
      rwa [not_and_or, Bool.not_eq_false] at hidle
    by_cases hsuccess : report.isSuccess
    · exact concludes_of_available hwriter hlaw hconfig hbusy hsuccess fun hsome =>
        hjobs hsome (isSuccess_iff_allAvailable.mp hsuccess)
    · exact concludes_of_unavailable hwriter hlaw hconfig hbusy hsuccess
  obtain ⟨code, t, verdict, ⟨out, hrun, htext⟩, hlast, hverdict⟩ := hconcludes
  obtain ⟨lines, hlines⟩ := List.getLast?_eq_some_iff.mp hlast
  have hend : text = Line.textOf lines ++ verdict ++ "\n" := by
    show Line.textOf (m.expected inv config p.session) = _
    simp [hlines, String.append_assoc]
  refine ⟨by rw [hrun]; exact htext, ?_, ?_, ?_, ?_, map_path_linted config p.session,
    fun hsome hsuccess => ?_⟩
  · rw [hrun]
    cases hverdict with
    | good => exact .inl rfl
    | bad => exact .inr rfl
  · rw [hend, hverdict.endsWith_iff, hrun, Except.ok.injEq]
  · rw [hroster]
    exact Bootstrap.map_linter_probeAll _
  · rw [hroster]
    exact Config.pairwise_enabledLinters (linters_of_configured hconfig)
  · have hselected : m.selected inv config p.session.machine ≠ [] := by simpa [paths] using hsome
    have havailable : m.AllAvailable inv config p.session := isSuccess_iff_allAvailable.mp hsuccess
    rw [lint_of_reliable hwriter]
    exact finding_of_available hconfig (.inl hselected) (hjobs hselected havailable) havailable

/-- flake8 passes on a file on a shelf, and so does the run. -/
theorem text_of_run_shelf :
    let p : Progress Shelf String := ⟨.begin Shelf.single, ""⟩
    EndsWith (Shelf.setting.run Shelf.singleInvocation p).2.out Report.lintSucceeded ∨
      EndsWith (Shelf.setting.run Shelf.singleInvocation p).2.out Report.noFiles := by
  intro p
  obtain ⟨config, hconfig, hjobs, -, -, -, hclean⟩ := exists_config_single
  have hcountable : Plan.Countable config.jobs? := hjobs ▸ Plan.countable_none
  obtain ⟨htext, -, hend, -⟩ := text_of_run (p := p) Writer.reliable_collect
    Writer.lawful_collect hconfig fun _ _ => hcountable
  have haccepted : ∀ out, Shelf.setting.writer.accepted out = out := fun _ => rfl
  have hempty : p.out = "" := rfl
  rw [haccepted, haccepted, hempty, String.empty_append] at htext
  rw [htext]
  have hzero : (Shelf.setting.run Shelf.singleInvocation p).1 = .ok 0 :=
    (run_eq_zero_iff (p := p) Writer.reliable_collect hconfig hcountable).mpr hclean
  exact hend.mpr hzero

/-- What a run has started that finds one file and usable tools. -/
lemma started_of_single {args : List (List String)} (hwriter : m.writer.Reliable)
    (hlaw : m.writer.Lawful) (target : Target)
    (h : ∃ config, m.configured inv p.session.machine = .ok config ∧
      (config.jobs?.isNone && (m.bootstrapped inv config p.session).1.isSuccess &&
        decide (m.FindsOnly inv config p.session.machine target) &&
        ((plan inv config (m.bootstrapped inv config p.session).1).lintFiles m.host m.env [target]
          (m.ready inv config p.session)).2.started.map (·.args) = args) = true) :
    (m.run inv p).2.session.started.map (·.args) = args := by
  obtain ⟨config, hconfig, hcheck⟩ := h
  simp only [Bool.and_eq_true, decide_eq_true_eq, Option.isNone_iff_eq_none] at hcheck
  obtain ⟨⟨⟨hjobs, hsuccess⟩, hfound⟩, hstarted⟩ := hcheck
  have hselected : m.selected inv config p.session.machine = [target] := hfound.selected_eq
  have hcountable : Plan.Countable config.jobs? := hjobs ▸ Plan.countable_none
  have hexecute : (plan inv config (m.bootstrapped inv config p.session).1).execute m.host m.env
      (m.selected inv config p.session.machine) (m.ready inv config p.session) = _ :=
    Plan.execute_of_countable hcountable
  obtain ⟨out, hrun, -⟩ := (writes_lint_of_available hwriter hlaw hconfig
    (.inl (by simp [hselected])) hsuccess
    (writes_lintListed hwriter hlaw (by simp [hselected]) hexecute)).run_of_ok
  rw [hrun, hselected]
  exact hstarted

/-! ### Too many workers -/

section Overload

variable (hwriter : m.writer.Reliable) (hlaw : m.writer.Lawful)
  (hconfig : m.configured inv p.session.machine = .ok config)
  (hsome : m.selected inv config p.session.machine ≠ [])
  (havailable : m.AllAvailable inv config p.session)

include hwriter hlaw hconfig hsome havailable

/-- With more workers than can be counted a run breaks off after the list of the files, without
results and without a verdict. -/
lemma run_of_overload {jobs : Nat} (hjobs : config.jobs? = some jobs)
    (hlt : Plan.maxWorkers < jobs) :
    let listed := (if inv.bootstrap then Report.progressLines config.roster else []) ++
      ((if inv.bootstrap then [.ofText Report.bootstrapSucceeded] else []) ++
        Report.fileListLines ((m.selected inv config p.session.machine).map (·.path)))
    (m.run inv p).1 = .error (.workers ⟨jobs⟩) ∧
    m.writer.accepted (m.run inv p).2.out = m.writer.accepted p.out ++ Line.textOf listed ∧
    m.writer.accepted (m.run inv p).2.out ≠
      m.writer.accepted p.out ++ Line.textOf (m.expected inv config p.session) := by
  intro listed
  have hsuccess := isSuccess_iff_allAvailable.mpr havailable
  have hexecute : (plan inv config (m.bootstrapped inv config p.session).1).execute m.host m.env
      (m.selected inv config p.session.machine) (m.ready inv config p.session) = _ :=
    Plan.execute_of_lt hjobs hlt
  obtain ⟨out, hrun, htext⟩ := (writes_lint_of_available hwriter hlaw hconfig (.inl hsome) hsuccess
    (writes_lintListed_of_error hwriter hlaw hsome hexecute)).run_of_workers
  rw [← Config.roster_eq (linters_of_configured hconfig)] at htext
  rw [hrun]
  refine ⟨rfl, htext, fun hsame => ?_⟩
  have hexpected : m.expected inv config p.session = listed ++ Report.runLines
      ⟨(m.bootstrapped inv config p.session).1, m.linted inv config p.session⟩ := by
    rw [expected, Report.transcript_of_available hsuccess, Report.outcomeLines_of_ne_nil
      (m.bootstrapped inv config p.session).1 (by simpa using hsome)
      (map_path_linted config p.session)]
    simp [listed, Report.progressLines]
  -- what is missing is more than nothing
  have htext' : _ = m.writer.accepted p.out ++ Line.textOf listed := htext
  rw [hexpected, Line.textOf_append listed, ← String.append_assoc, ← htext'] at hsame
  exact Line.textOf_ne_empty (by simp [Report.runLines]) (String.append_eq_left_iff.mp hsame.symm)

end Overload

/-- With one worker too many the results of a file on a shelf are missing, and with them the
verdict. -/
theorem text_of_overload_shelf :
    let p : Progress Shelf String :=
      ⟨.begin [("pyproject.toml", "[tool.lint]\n"), ("a.py", "x = 1")], ""⟩
    let inv : Invocation := ⟨Shelf.directory, [⟨"a.py"⟩], false, some (Plan.maxWorkers + 1), none⟩
    ∃ config, Shelf.setting.configured inv p.session.machine = .ok config ∧
      (Shelf.setting.run inv p).2.out = "Linting the following files:\n- a.py\n" ∧
      (Shelf.setting.run inv p).2.out ≠ Line.textOf (Report.transcript inv.bootstrap config.roster
        (Shelf.setting.bootstrapped inv config p.session).1
        ((Shelf.setting.selected inv config p.session.machine).map (·.path))
        ((Shelf.setting.linted inv config p.session).map (·.results))) := by
  intro p inv
  let target : Target := ⟨⟨"a.py"⟩, ⟨"/shelf/a.py"⟩⟩
  obtain ⟨config, hconfig, hcheck⟩ : ∃ config,
      Shelf.setting.configured inv p.session.machine = .ok config ∧
      (decide (config.jobs? = some (Plan.maxWorkers + 1)) &&
        (Shelf.setting.bootstrapped inv config p.session).1.isSuccess &&
        decide (Shelf.setting.FindsOnly inv config p.session.machine target)) = true :=
    exists_ok_of_check (by decide +kernel)
  simp only [Bool.and_eq_true, decide_eq_true_eq] at hcheck
  obtain ⟨⟨hjobs, hsuccess⟩, hfound⟩ := hcheck
  have hselected : Shelf.setting.selected inv config p.session.machine = [target] :=
    hfound.selected_eq
  obtain ⟨-, htext, hne⟩ := run_of_overload Writer.reliable_collect Writer.lawful_collect hconfig
    (by simp [hselected]) (isSuccess_iff_allAvailable.mp hsuccess) hjobs (Nat.lt_succ_self _)
  have haccepted : ∀ out, Shelf.setting.writer.accepted out = out := fun _ => rfl
  have hempty : p.out = "" := rfl
  rw [haccepted, haccepted, hempty, String.empty_append] at htext hne
  refine ⟨config, hconfig, ?_, hne⟩
  rw [htext, hselected]
  rfl

end Setting

end LintChain

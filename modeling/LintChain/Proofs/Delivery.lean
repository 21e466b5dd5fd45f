import LintChain.Proofs.Given
import LintChain.Proofs.Refusal

/-!
What is asked of the writer in a run that ends well. A writer may keep what it takes for itself
until it is flushed. A run that has files to lint flushes it at the very end; one that has none
writes a line or more and never does.
-/

namespace LintChain

variable {σ ω α β : Type}

/-! ### A record of what is asked of a writer -/

namespace Writer

/-- What a writer was asked, and whether it did it. -/
inductive Call
  | write (text : String) (done : Bool)
  | flush (done : Bool)
  deriving DecidableEq

/-- The calls by which lines have been written. -/
def Call.writes (lines : List Line) : List Call :=
  (lines.flatMap fun line => line.pieces ++ ["\n"]).map (.write · true)

@[simp] lemma Call.writes_nil : writes [] = [] := rfl

lemma Call.writes_append (first second : List Line) :
    writes (first ++ second) = writes first ++ writes second := by
  simp [writes]

/-- The act with a record of it. -/
def record (call : Bool → Call) (act : ω → Except WriteError Unit × ω) (out : ω × List Call) :
    Except WriteError Unit × ω × List Call :=
  let (result, after) := act out.1
  (result, after, out.2 ++ [call result.isOk])

/-- A writer with a record of what it is asked. -/
def recorded (writer : Writer ω) : Writer (ω × List Call) where
  write text := record (.write text) (writer.write text)
  flush := record .flush writer.flush
  accepted out := writer.accepted out.1

/-- An act that comes to the same as another one and adds to the record, `calls` if it ends well. -/
def Adds (calls : List Call) (act : ω → Except WriteError Unit × ω)
    (act' : ω × List Call → Except WriteError Unit × ω × List Call) : Prop :=
  ∀ out before, ∃ more, act' (out, before) = ((act out).1, (act out).2, before ++ more) ∧
    ((act out).1 = .ok () → more = calls)

lemma adds_nothing : Adds [] (fun out : ω => (.ok (), out)) fun out => (.ok (), out) :=
  fun _ _ => ⟨[], by simp, fun _ => rfl⟩

lemma adds_record (call : Bool → Call) (act : ω → Except WriteError Unit × ω) :
    Adds [call true] act (record call act) := by
  intro out before
  refine ⟨[call (act out).1.isOk], rfl, fun hok => ?_⟩
  rw [hok]
  rfl

lemma Adds.andThen {first second : List Call} {act next : ω → Except WriteError Unit × ω}
    {act' next' : ω × List Call → Except WriteError Unit × ω × List Call}
    (h : Adds first act act') (h' : Adds second next next') :
    Adds (first ++ second) (andThen act next) (andThen act' next') := by
  intro out before
  obtain ⟨more, hact', hmore⟩ := h out before
  rcases hact : act out with ⟨e | _, after⟩
  · -- what is to come after a failure is not asked for
    rw [hact] at hact'
    rw [andThen_of_error hact, andThen_of_error hact']
    exact ⟨more, rfl, nofun⟩
  · rw [hact] at hact' hmore
    rw [andThen_of_ok hact, andThen_of_ok hact']
    obtain ⟨rest, hnext', hrest⟩ := h' after (before ++ more)
    refine ⟨more ++ rest, ?_, fun hok => ?_⟩
    · rw [hnext', List.append_assoc]
    · rw [hmore rfl, hrest hok]

lemma adds_writePieces (writer : Writer ω) (pieces : List String) :
    Adds (pieces.map (.write · true)) (writer.writePieces pieces)
      (writer.recorded.writePieces pieces) := by
  induction pieces with
  | nil => exact adds_nothing
  | cons piece rest ih =>
    rw [writePieces_cons, writePieces_cons, List.map_cons, ← List.singleton_append]
    exact (adds_record (.write piece) (writer.write piece)).andThen ih

lemma adds_writeLines (writer : Writer ω) (lines : List Line) :
    Adds (Call.writes lines) (writer.writeLines lines) (writer.recorded.writeLines lines) := by
  induction lines with
  | nil => exact adds_nothing
  | cons line rest ih =>
    rw [writeLines_cons, writeLines_cons, ← List.singleton_append, Call.writes_append]
    have hline : Call.writes [line] = (line.pieces ++ ["\n"]).map (.write · true) := by
      simp [Call.writes]
    rw [hline]
    exact (adds_writePieces writer (line.pieces ++ ["\n"])).andThen ih

end Writer

namespace Setting

open Writer (Call Adds)

variable {m : Setting σ ω} {inv : Invocation} {p : Progress σ ω}

/-! ### The record of a stage -/

/-- A stage beside the same stage with a recorded writer. -/
def Records ⦃α : Type⦄ (x : Stage σ ω α) (y : Stage σ (ω × List Call) α) : Prop :=
  ∀ s out before, ∃ more, y ⟨s, out, before⟩ =
    ((x ⟨s, out⟩).1, ⟨(x ⟨s, out⟩).2.session, (x ⟨s, out⟩).2.out, before ++ more⟩)

lemma records_writing {act : ω → Except WriteError Unit × ω}
    {act' : ω × List Call → Except WriteError Unit × ω × List Call} {calls : List Call}
    (h : Adds calls act act') : Records (writing act : Stage σ ω Unit) (writing act') := by
  intro s out before
  obtain ⟨more, hact', -⟩ := h out before
  exact ⟨more, by simp [writing, hact']⟩

lemma records_bind {x : Stage σ ω α} {y : Stage σ (ω × List Call) α} {f : α → Stage σ ω β}
    {g : α → Stage σ (ω × List Call) β} (hx : Records x y) (hf : ∀ a, Records (f a) (g a)) :
    Records (x >>= f) (y >>= g) := by
  intro s out before
  obtain ⟨more, hy⟩ := hx s out before
  rcases hxr : x ⟨s, out⟩ with ⟨e | a, t, after⟩
  · rw [hxr] at hy
    rw [Stage.bind_of_error hxr, Stage.bind_of_error hy]
    exact ⟨more, rfl⟩
  · rw [hxr] at hy
    rw [Stage.bind_of_ok hxr, Stage.bind_of_ok hy]
    obtain ⟨rest, hg⟩ := hf a t after (before ++ more)
    exact ⟨more ++ rest, by rw [hg, List.append_assoc]⟩

lemma relates_records : m.Relates m.writer.recorded Records where
  pure a := fun s out before => ⟨[], by simp⟩
  throw he := fun s out before => ⟨[], by simp [throw_apply]⟩
  bind := records_bind
  working act := fun s out before => ⟨[], by simp [working]⟩
  writeLines lines := records_writing (m.writer.adds_writeLines lines)
  flush := records_writing (Writer.adds_record .flush m.writer.flush)

/-- What a stage that ends well adds to the record satisfies `P`. -/
def Leaves (P : List Call → Prop) (x : Stage σ (ω × List Call) α) : Prop :=
  ∀ ⦃p a q⦄, x p = (.ok a, q) → ∃ calls, q.out.2 = p.out.2 ++ calls ∧ P calls

/-- Lines have been written and nothing else. -/
def Written (calls : List Call) : Prop := ∃ lines, calls = Call.writes lines

/-- At least a line has been written, and what came after the lines satisfies `P`. -/
def WrittenThen (P : List Call → Prop) (calls : List Call) : Prop :=
  ∃ lines last, lines ≠ [] ∧ calls = Call.writes lines ++ last ∧ P last

variable (m) in
/-- Nothing but a flush, which did not fail. -/
def Flushed (calls : List Call) : Prop :=
  calls = [.flush true] ∧ ∃ out, (m.writer.flush out).1 = .ok ()

lemma Written.nil : Written [] := ⟨[], rfl⟩

lemma Written.append {first second : List Call} (h : Written first) (h' : Written second) :
    Written (first ++ second) := by
  obtain ⟨lines, rfl⟩ := h
  obtain ⟨more, rfl⟩ := h'
  exact ⟨lines ++ more, (Call.writes_append lines more).symm⟩

lemma WrittenThen.prepend {P : List Call → Prop} {first second : List Call} (h : Written first)
    (h' : WrittenThen P second) : WrittenThen P (first ++ second) := by
  obtain ⟨lines, rfl⟩ := h
  obtain ⟨more, last, hmore, rfl, hlast⟩ := h'
  refine ⟨lines ++ more, last, by simp [hmore], ?_, hlast⟩
  rw [Call.writes_append, List.append_assoc]

namespace Leaves

variable {P Q R : List Call → Prop} {x : Stage σ (ω × List Call) α}
  {f : α → Stage σ (ω × List Call) β} {config : Config} {report : BootstrapReport}
  {targets : List Target} {lines : List Line}

lemma bind (hx : Leaves P x) (hf : ∀ a, Leaves Q (f a))
    (h : ∀ first second, P first → Q second → R (first ++ second)) : Leaves R (x >>= f) := by
  intro p b q hrun
  rcases hxr : x p with ⟨e | a, t⟩
  · rw [Stage.bind_of_error hxr] at hrun
    cases hrun
  · rw [Stage.bind_of_ok hxr] at hrun
    obtain ⟨first, hfirst, hP⟩ := hx hxr
    obtain ⟨second, hsecond, hQ⟩ := hf a hrun
    exact ⟨first ++ second, by rw [hsecond, hfirst, List.append_assoc], h first second hP hQ⟩

/-- What comes after the lines is not changed by more lines in front. -/
lemma bind_written (hx : Leaves Written x) (hf : ∀ a, Leaves (WrittenThen P) (f a)) :
    Leaves (WrittenThen P) (x >>= f) :=
  hx.bind hf fun _ _ => WrittenThen.prepend

lemma pure (a : α) : Leaves (σ := σ) (ω := ω) (· = []) (Pure.pure a) := by
  intro p b q h
  obtain ⟨-, rfl⟩ := Prod.mk.inj h
  exact ⟨[], by simp, rfl⟩

/-- A stage that leaves the writer alone. -/
lemma written_of_out_eq (h : ∀ p, (x p).2.out = p.out) : Leaves Written x := by
  intro p a q hx
  have hout : q.out = p.out := by rw [← h p, hx]
  exact ⟨[], by simp [hout], .nil⟩

variable (m inv)

lemma writeLines (lines : List Line) : Leaves (· = Call.writes lines)
    ((m.withWriter m.writer.recorded).writeLines lines) := by
  intro p a q h
  obtain ⟨more, hact, hmore⟩ := m.writer.adds_writeLines lines p.out.1 p.out.2
  have hwrite : (m.withWriter m.writer.recorded).writer.writeLines lines p.out = _ := hact
  rw [writeLines_apply, hwrite] at h
  obtain ⟨hresult, rfl⟩ := Prod.mk.inj h
  exact ⟨more, rfl, hmore (mapError_eq_ok_iff.mp hresult)⟩

lemma flush : Leaves m.Flushed (m.withWriter m.writer.recorded).flush := by
  intro p a q h
  rw [flush_apply] at h
  obtain ⟨hresult, rfl⟩ := Prod.mk.inj h
  have hflushed : (m.writer.flush p.out.1).1 = .ok () := mapError_eq_ok_iff.mp hresult
  refine ⟨[.flush true], ?_, rfl, p.out.1, hflushed⟩
  simp [withWriter, Writer.recorded, Writer.record, hflushed, Except.isOk, Except.toBool]

lemma written_writeLines (lines : List Line) :
    Leaves Written ((m.withWriter m.writer.recorded).writeLines lines) := by
  intro p a q h
  obtain ⟨calls, hcalls, rfl⟩ := writeLines m lines h
  exact ⟨_, hcalls, lines, rfl⟩

lemma writeIf (wanted : Bool) (lines : List Line) :
    Leaves Written ((m.withWriter m.writer.recorded).writeIf wanted lines) := by
  cases wanted with
  | false => exact written_of_out_eq fun _ => rfl
  | true => exact written_writeLines m lines

lemma bootstrap (config : Config) :
    Leaves Written ((m.withWriter m.writer.recorded).bootstrap inv config) :=
  written_of_out_eq fun p => by rw [bootstrap_apply]

lemma lintTargets (config : Config) (report : BootstrapReport) (targets : List Target) :
    Leaves Written ((m.withWriter m.writer.recorded).lintTargets inv config report targets) := by
  refine written_of_out_eq fun p => ?_
  rcases hexecute : (plan inv config report).execute m.host m.env targets
    (engaged inv config report p.session) with ⟨r, t⟩
  rw [lintTargets_of_execute hexecute]

/-- Some lines, and then the end of a stage. -/
lemma lines_then {lines : List Line} (hne : lines ≠ []) {f : Unit → Stage σ (ω × List Call) β}
    (hf : ∀ a, Leaves P (f a)) :
    Leaves (WrittenThen P) ((m.withWriter m.writer.recorded).writeLines lines >>= f) :=
  (writeLines m lines).bind hf fun _ last hlines hlast => ⟨lines, last, hne, by rw [hlines], hlast⟩

lemma writeResults (run : RunReport) : Leaves (WrittenThen m.Flushed)
    ((m.withWriter m.writer.recorded).writeResults run) := by
  refine lines_then m (by simp [Report.runLines]) fun _ => ?_
  exact (flush m).bind (fun _ => pure run) fun first _ hfirst hsecond => by
    rwa [hsecond, List.append_nil]

/-- The end of a run that has files to lint. -/
lemma lintListed {targets : List Target} (hsome : targets ≠ []) (config : Config)
    (report : BootstrapReport) : Leaves (WrittenThen m.Flushed)
    ((m.withWriter m.writer.recorded).lintListed inv config targets report) := by
  refine (written_writeLines m _).bind_written fun _ => ?_
  rw [if_neg (by simpa using hsome)]
  exact (lintTargets m inv config report targets).bind_written fun files =>
    writeResults m ⟨report, files⟩

/-- The end of a run that has none. -/
lemma writeTargets_nil (run : RunReport) : Leaves (WrittenThen (· = []))
    (do (m.withWriter m.writer.recorded).writeTargets []; return run) :=
  lines_then m (by simp [Report.fileListLines]) fun _ => pure run

/-- The part of a run that starts processes adds lines to what its end leaves. -/
lemma lintDiscovered {config : Config} {targets : List Target}
    (h : ∀ report, Leaves (WrittenThen P)
      ((m.withWriter m.writer.recorded).lintListed inv config targets report)) :
    Leaves (WrittenThen P)
      ((m.withWriter m.writer.recorded).lintDiscovered inv config targets) := by
  rw [lintDiscovered_eq]
  refine (writeIf m _ _).bind_written fun _ => ?_
  refine (bootstrap m inv config).bind_written fun report => ?_
  exact (writeIf m _ _).bind_written fun _ => h report

/-- **The chain** that ends well has written lines, and then flushed the writer only if there are
files. -/
lemma lint {config : Config} {q : Progress σ (ω × List Call)} {run : RunReport}
    (hconfig : m.configured inv p.session.machine = .ok config)
    (h : (m.withWriter m.writer.recorded).lint inv ⟨p.session, p.out, []⟩ = (.ok run, q)) :
    (m.selected inv config p.session.machine ≠ [] → WrittenThen m.Flushed q.out.2) ∧
      (m.selected inv config p.session.machine = [] → WrittenThen (· = []) q.out.2) := by
  let m' := m.withWriter m.writer.recorded
  have hconfig' : m'.configured inv p.session.machine = .ok config := hconfig
  have hselected : m'.selected inv config p.session.machine =
      m.selected inv config p.session.machine := rfl
  have hrecord {P : List Call → Prop} {x : Stage σ (ω × List Call) RunReport} (hx : Leaves P x)
      (hlint : m'.lint inv ⟨p.session, p.out, []⟩ =
        x ⟨m'.prepared inv config p.session, p.out, []⟩) : P q.out.2 := by
    obtain ⟨calls, hcalls, hP⟩ := hx (hlint.symm.trans h)
    rwa [hcalls]
  have hbusy {P : List Call → Prop}
      (hsome : m'.selected inv config p.session.machine ≠ [] ∨ inv.bootstrap = true)
      (hx : ∀ report, Leaves (WrittenThen P)
        (m'.lintListed inv config (m'.selected inv config p.session.machine) report)) :
      WrittenThen P q.out.2 :=
    hrecord (lintDiscovered m inv hx) (lint_of_busy hconfig' hsome)
  constructor
  · intro hsome
    exact hbusy (.inl hsome) fun report => lintListed m inv hsome config report
  · intro hnone
    rw [← hselected] at hnone
    cases hflag : inv.bootstrap with
    | false => exact hrecord (writeTargets_nil m .empty) (lint_of_idle hconfig' hnone hflag)
    | true =>
      refine hbusy (.inr hflag) fun report => ?_
      rw [hnone]
      exact writeTargets_nil m ⟨report, []⟩

end Leaves

/-! ### Runs that end well -/

/-- A chain that has been interrupted does not end with code 0. -/
lemma conclude_error_ne_zero (e : LintError) (q : Progress σ ω) :
    (m.conclude (.error e) q).1 ≠ .ok 0 := by
  cases e with
  | workers e => nofun
  | _ =>
    simp only [conclude, Stage.bind_eq, writeLines_apply]
    cases (m.writer.writeLines _ q.out).1 <;> simp [Except.mapError]

lemma exists_lint_of_run_eq_zero (h : (m.run inv p).1 = .ok 0) :
    ∃ run, (m.lint inv p).1 = .ok run := by
  rw [run_apply] at h
  cases hlint : (m.lint inv p).1 with
  | ok run => exact ⟨run, rfl⟩
  | error e =>
    rw [hlint] at h
    exact absurd h (conclude_error_ne_zero e _)

lemma exists_calls {run : RunReport} (h : (m.lint inv p).1 = .ok run) :
    ∃ config calls, m.configured inv p.session.machine = .ok config ∧
      (m.withWriter m.writer.recorded).lint inv ⟨p.session, p.out, []⟩ =
        (.ok run, ⟨(m.lint inv p).2.session, (m.lint inv p).2.out, calls⟩) ∧
      (m.selected inv config p.session.machine ≠ [] → WrittenThen m.Flushed calls) ∧
      (m.selected inv config p.session.machine = [] → WrittenThen (· = []) calls) := by
  obtain ⟨calls, hrecorded⟩ := relates_records.lint (m := m) inv p.session p.out []
  have hrecorded' : (m.withWriter m.writer.recorded).lint inv ⟨p.session, p.out, []⟩ =
      (.ok run, ⟨(m.lint inv p).2.session, (m.lint inv p).2.out, calls⟩) := by
    rw [hrecorded, ← h]
    rfl
  cases hconfig : m.configured inv p.session.machine with
  | error e =>
    rw [lint_of_error hconfig] at h
    cases h
  | ok config => exact ⟨config, calls, rfl, hrecorded', Leaves.lint m inv hconfig hrecorded'⟩

/-- **What has been flushed when a chain ends well.** Beside the same chain with a record of what the
writer is asked, line after line has been written, and none was refused. Where there are files to
lint the last call is a flush that has not failed, and it is the only one; where there are none the
last call is a write, and the writer is never flushed. So with a writer that cannot be flushed, a run
with code 0 had nothing to lint. -/
theorem flushed_of_lint (m : Setting σ ω) (inv : Invocation) (p : Progress σ ω) :
    (∀ run, (m.lint inv p).1 = .ok run → ∃ config lines,
      m.configured inv p.session.machine = .ok config ∧ lines ≠ [] ∧
        (m.withWriter m.writer.recorded).lint inv ⟨p.session, p.out, []⟩ =
          (.ok run, ⟨(m.lint inv p).2.session, (m.lint inv p).2.out, Call.writes lines ++
            if m.selected inv config p.session.machine = [] then [] else [.flush true]⟩)) ∧
    ((∀ out, (m.writer.flush out).1 ≠ .ok ()) → (m.run inv p).1 = .ok 0 →
      ∃ config, m.configured inv p.session.machine = .ok config ∧
        m.selected inv config p.session.machine = []) := by
  constructor
  · intro run hrun
    obtain ⟨config, calls, hconfig, hrecorded, hsome, hnone⟩ := exists_calls hrun
    rw [hrecorded]
    by_cases h : m.selected inv config p.session.machine = []
    · obtain ⟨lines, last, hlines, rfl, rfl⟩ := hnone h
      exact ⟨config, lines, hconfig, hlines, by rw [if_pos h]⟩
    · obtain ⟨lines, last, hlines, rfl, rfl, -⟩ := hsome h
      exact ⟨config, lines, hconfig, hlines, by rw [if_neg h]⟩
  · intro hflush hzero
    obtain ⟨run, hrun⟩ := exists_lint_of_run_eq_zero hzero
    obtain ⟨config, calls, hconfig, -, hsome, -⟩ := exists_calls hrun
    refine ⟨config, hconfig, by_contra fun h => ?_⟩
    -- with files the record ends with a flush that the writer has done
    obtain ⟨-, -, -, -, -, out, hout⟩ := hsome h
    exact hflush out hout

/-- With nothing to lint a run ends with code 0 though its writer cannot be flushed, and is not. -/
theorem flushed_of_lint_idle :
    let m : Setting Shelf LimitedText := ⟨Shelf.host, Shelf.setting.env, LimitedText.writer⟩
    let p : Progress Shelf LimitedText :=
      ⟨.begin [("pyproject.toml", "[tool.lint]\n")], ⟨"", none, false, true⟩⟩
    let inv : Invocation := ⟨Shelf.directory, [], false, none, none⟩
    (m.run inv p).1 = .ok 0 ∧ (m.run inv p).2.out.text = "No files to lint.\n" ∧
      (m.writer.flush (m.run inv p).2.out).1 = .error ⟨"flush failed"⟩ ∧
      ((m.withWriter m.writer.recorded).lint inv ⟨p.session, p.out, []⟩).2.out.2 =
        [.write "No files to lint." true, .write "\n" true] := by
  intro m p inv
  obtain ⟨code, hrun, hcode⟩ : ∃ code, (m.run inv p).1 = .ok code ∧ decide (code = 0) = true :=
    exists_ok_of_check (by decide +kernel)
  obtain rfl := of_decide_eq_true hcode
  exact ⟨hrun, by decide +kernel, by decide +kernel, by decide +kernel⟩

end Setting

end LintChain

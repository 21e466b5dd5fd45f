import LintChain.Proofs.Bytes
import LintChain.Proofs.Transcript
import LintChain.Writer.Limited

/-!
Writers that refuse. A run with any writer goes the way of the same run with a writer that refuses
nothing, up to the first refusal. After a refusal nothing more is written but the verdict of
failure, and that only if the chain itself was interrupted, not its closing lines.
-/

namespace LintChain

variable {σ ω ω' α β : Type}

/-! ### The same run with another writer -/

namespace Setting

variable (m : Setting σ ω)

/-- The same run with another writer. -/
def withWriter (writer : Writer ω') : Setting σ ω' := ⟨m.host, m.env, writer⟩

/-- A relation between the stages of a run and those of the same run with another writer that is
kept by all that the chain is made of. -/
structure Relates (writer : Writer ω') (R : ∀ ⦃α : Type⦄, Stage σ ω α → Stage σ ω' α → Prop) :
    Prop where
  pure {α : Type} (a : α) : R (Pure.pure a) (Pure.pure a)
  throw {α : Type} {e : LintError} (he : ∀ e', e ≠ .write e') :
    R (MonadExcept.throw e : Stage σ ω α) (MonadExcept.throw e)
  bind {α β : Type} {x : Stage σ ω α} {y : Stage σ ω' α} {f : α → Stage σ ω β}
    {g : α → Stage σ ω' β} (hx : R x y) (hf : ∀ a, R (f a) (g a)) : R (x >>= f) (y >>= g)
  working {α : Type} (act : Session σ → α × Session σ) : R (Setting.working act) (working act)
  writeLines (lines : List Line) : R (m.writeLines lines) ((m.withWriter writer).writeLines lines)
  flush : R m.flush (m.withWriter writer).flush

namespace Relates

variable {m} {writer : Writer ω'} {R : ∀ ⦃α : Type⦄, Stage σ ω α → Stage σ ω' α → Prop}
  (h : m.Relates writer R) (inv : Invocation)

include h

lemma writeIf (wanted : Bool) (lines : List Line) :
    R (m.writeIf wanted lines) ((m.withWriter writer).writeIf wanted lines) := by
  cases wanted with
  | false => exact h.pure ()
  | true => exact h.writeLines lines

lemma resolveConfig : R (m.resolveConfig inv) ((m.withWriter writer).resolveConfig inv) := by
  refine h.bind (h.working _) fun config => ?_
  cases config with
  | error e => exact h.throw (by simp)
  | ok config => exact h.pure _

lemma bootstrap (config : Config) :
    R (m.bootstrap inv config) ((m.withWriter writer).bootstrap inv config) := by
  refine h.bind (h.working _) fun report => ?_
  split
  · exact h.pure report
  · exact h.throw (by simp)

lemma lintTargets (config : Config) (report : BootstrapReport) (targets : List Target) :
    R (m.lintTargets inv config report targets)
      ((m.withWriter writer).lintTargets inv config report targets) := by
  refine h.bind (h.working _) fun files => ?_
  cases files with
  | error e => exact h.throw (by simp)
  | ok files => exact h.pure files

lemma writeResults (run : RunReport) :
    R (m.writeResults run) ((m.withWriter writer).writeResults run) := by
  refine h.bind (h.writeLines _) fun _ => ?_
  exact h.bind h.flush fun _ => h.pure run

lemma lintListed (config : Config) (targets : List Target) (report : BootstrapReport) :
    R (m.lintListed inv config targets report)
      ((m.withWriter writer).lintListed inv config targets report) := by
  refine h.bind (h.writeLines _) fun _ => ?_
  split
  · exact h.pure _
  · refine h.bind (h.lintTargets inv config report targets) fun files => ?_
    exact h.writeResults ⟨report, files⟩

lemma lintDiscovered (config : Config) (targets : List Target) :
    R (m.lintDiscovered inv config targets)
      ((m.withWriter writer).lintDiscovered inv config targets) := by
  rw [lintDiscovered_eq, lintDiscovered_eq]
  refine h.bind (h.writeIf _ _) fun _ => ?_
  refine h.bind (h.bootstrap inv config) fun report => ?_
  exact h.bind (h.writeIf _ _) fun _ => h.lintListed inv config targets report

/-- **The chains are related** if all that they are made of is. -/
theorem lint : R (m.lint inv) ((m.withWriter writer).lint inv) := by
  refine h.bind (h.resolveConfig inv) fun config => ?_
  refine h.bind (h.working _) fun targets => ?_
  split
  · exact h.bind (h.writeLines _) fun _ => h.pure RunReport.empty
  · exact h.lintDiscovered inv config targets

lemma conclude (r : Except LintError RunReport) :
    R (m.conclude r) ((m.withWriter writer).conclude r) := by
  cases r with
  | ok run => exact h.pure run.exitCode
  | error e =>
    cases e with
    | workers e => exact h.throw (by simp)
    | _ => exact h.bind (h.writeLines _) fun _ => h.pure 1

end Relates

end Setting

/-! ### What a writer takes before it refuses -/

namespace Writer

/-- One act after another one, unless that one is refused. -/
def andThen (act next : ω → Except WriteError Unit × ω) (out : ω) : Except WriteError Unit × ω :=
  match act out with
  | (.ok (), out) => next out
  | (.error e, out) => (.error e, out)

section AndThen

variable {act next : ω → Except WriteError Unit × ω} {out after : ω}

lemma andThen_of_ok (h : act out = (.ok (), after)) : andThen act next out = next after := by
  simp [andThen, h]

lemma andThen_of_error {e : WriteError} (h : act out = (.error e, after)) :
    andThen act next out = (.error e, after) := by
  simp [andThen, h]

variable (writer : Writer ω)

lemma writePieces_cons (piece : String) (rest : List String) :
    writer.writePieces (piece :: rest) =
      andThen (writer.write piece) (writer.writePieces rest) := by
  funext out
  rcases hwrite : writer.write piece out with ⟨_ | _, after⟩ <;>
    simp [writePieces, andThen, hwrite]

lemma writeLines_cons (line : Line) (rest : List Line) : writer.writeLines (line :: rest) =
    andThen (writer.writeLine line) (writer.writeLines rest) := by
  funext out
  rcases hwrite : writer.writeLine line out with ⟨_ | _, after⟩ <;>
    simp [writeLines, andThen, hwrite]

end AndThen

/-- An act puts a text into what has been `taken`, byte by byte: all of it if it ends well, and
otherwise a beginning, which may end within a character. -/
structure Puts (taken : ω → List UInt8) (text : String) (act : ω → Except WriteError Unit × ω) :
    Prop where
  of_ok {out after : ω} (h : act out = (.ok (), after)) :
    taken after = taken out ++ Text.bytes text
  of_error {out after : ω} {e : WriteError} (h : act out = (.error e, after)) :
    ∃ part, part <+: Text.bytes text ∧ taken after = taken out ++ part

/-- What a writer has taken is what it was given, up to a refusal. -/
structure Keeps (writer : Writer ω) (taken : ω → List UInt8) : Prop where
  write (text : String) : Puts taken text (writer.write text)
  flush : Puts taken "" writer.flush

section Keeps

variable {writer : Writer ω} {taken : ω → List UInt8}

lemma Lawful.keeps (h : writer.Lawful) :
    writer.Keeps fun out => Text.bytes (writer.accepted out) where
  write text := by
    refine ⟨fun hok => ?_, fun herror => ?_⟩
    · rw [h.accepted_of_ok hok, Text.bytes_append]
    · obtain ⟨part, rest, rfl, haccepted⟩ := h.accepted_of_error herror
      rw [haccepted]
      exact ⟨Text.bytes part, by simp, by simp⟩
  flush := by
    have hsame {out after : ω} {r : Except WriteError Unit}
        (hflush : writer.flush out = (r, after)) : writer.accepted after = writer.accepted out := by
      have haccepted := h.accepted_flush out
      rwa [hflush] at haccepted
    exact ⟨fun hok => by simp [hsame hok], fun herror => ⟨[], by simp, by simp [hsame herror]⟩⟩

lemma Puts.nothing : Puts taken "" fun out => (.ok (), out) where
  of_ok h := by
    obtain ⟨-, rfl⟩ := Prod.mk.inj h
    simp
  of_error h := by simp at h

/-- One text after another one. -/
lemma Puts.andThen {first second : String} {act next : ω → Except WriteError Unit × ω}
    (h : Puts taken first act) (h' : Puts taken second next) :
    Puts taken (first ++ second) (andThen act next) where
  of_ok {out after} hok := by
    rcases hact : act out with ⟨e | _, mid⟩
    · rw [andThen_of_error hact] at hok
      simp at hok
    · rw [andThen_of_ok hact] at hok
      rw [h'.of_ok hok, h.of_ok hact, Text.bytes_append, List.append_assoc]
  of_error {out after e} herror := by
    rw [Text.bytes_append]
    rcases hact : act out with ⟨e' | _, mid⟩
    · rw [andThen_of_error hact] at herror
      obtain ⟨-, rfl⟩ := Prod.mk.inj herror
      obtain ⟨part, hpart, htaken⟩ := h.of_error hact
      exact ⟨part, hpart.trans (List.prefix_append _ _), htaken⟩
    · rw [andThen_of_ok hact] at herror
      obtain ⟨part, hpart, htaken⟩ := h'.of_error herror
      refine ⟨Text.bytes first ++ part, (List.prefix_append_right_inj _).mpr hpart, ?_⟩
      rw [htaken, h.of_ok hact, List.append_assoc]

variable (h : writer.Keeps taken)

include h

lemma Keeps.writePieces (pieces : List String) :
    Puts taken (String.join pieces) (writer.writePieces pieces) := by
  induction pieces with
  | nil => exact .nothing
  | cons piece rest ih =>
    rw [String.join_cons, writePieces_cons]
    exact (h.write piece).andThen ih

lemma Keeps.writeLine (line : Line) :
    Puts taken (line.text ++ "\n") (writer.writeLine line) := by
  have htext : String.join (line.pieces ++ ["\n"]) = line.text ++ "\n" := by
    simp [Line.text]
  rw [← htext]
  exact h.writePieces (line.pieces ++ ["\n"])

lemma Keeps.writeLines (lines : List Line) :
    Puts taken (Line.textOf lines) (writer.writeLines lines) := by
  induction lines with
  | nil => exact .nothing
  | cons line rest ih =>
    rw [Line.textOf_cons, writeLines_cons]
    exact (h.writeLine line).andThen ih

end Keeps

/-! ### A flag for refusals -/

/-- The act with a flag that a refusal raises. -/
def watch (act : ω → Except WriteError Unit × ω) (out : ω × Bool) :
    Except WriteError Unit × ω × Bool :=
  let (result, after) := act out.1
  (result, after, out.2 || !result.isOk)

/-- A writer with a flag that its first refusal raises. -/
def watched (writer : Writer ω) : Writer (ω × Bool) where
  write text := watch (writer.write text)
  flush := watch writer.flush
  accepted out := writer.accepted out.1

lemma watch_andThen (act next : ω → Except WriteError Unit × ω) :
    watch (andThen act next) = andThen (watch act) (watch next) := by
  funext ⟨out, flag⟩
  rcases hact : act out with ⟨e | _, after⟩
  · have hwatch : watch act (out, flag) = (.error e, after, true) := by
      simp [watch, hact, Except.isOk, Except.toBool]
    rw [andThen_of_error hwatch]
    simp [watch, andThen_of_error hact, Except.isOk, Except.toBool]
  · have hwatch : watch act (out, flag) = (.ok (), after, flag) := by
      simp [watch, hact, Except.isOk, Except.toBool]
    rw [andThen_of_ok hwatch]
    simp [watch, andThen_of_ok hact]

lemma watch_nothing :
    watch (fun out : ω => (.ok (), out)) = fun out => (.ok (), out) := by
  funext ⟨out, flag⟩
  simp [watch, Except.isOk, Except.toBool]

lemma writePieces_watched (writer : Writer ω) (pieces : List String) :
    writer.watched.writePieces pieces = watch (writer.writePieces pieces) := by
  induction pieces with
  | nil => exact watch_nothing.symm
  | cons piece rest ih =>
    rw [writePieces_cons, writePieces_cons, watch_andThen, ih]
    rfl

lemma writeLines_watched (writer : Writer ω) (lines : List Line) :
    writer.watched.writeLines lines = watch (writer.writeLines lines) := by
  induction lines with
  | nil => exact watch_nothing.symm
  | cons line rest ih =>
    rw [writeLines_cons, writeLines_cons, watch_andThen, ih]
    exact congrArg (andThen · _) (writePieces_watched writer (line.pieces ++ ["\n"]))

end Writer

namespace Setting

variable {m : Setting σ ω} {inv : Invocation} {taken : ω → List UInt8}

/-! ### Stages up to a refusal -/

/-- How a stage ends beside the same stage with a writer that refuses nothing and takes a text:
alike, or by a refusal after a part of the text. -/
inductive Fares (taken : ω → List UInt8) (out : ω) (text : String) :
    Except LintError α × Progress σ ω → Except LintError α × Progress σ String → Prop
  | whole {r : Except LintError α} {s : Session σ} {after : ω} {full : String}
      (h : taken after = taken out ++ Text.bytes text) :
      Fares taken out text (r, ⟨s, after⟩) (r, ⟨s, full⟩)
  | cut {e : WriteError} {q : Progress σ ω} {part : List UInt8}
      {y : Except LintError α × Progress σ String} (hpart : part <+: Text.bytes text)
      (h : taken q.out = taken out ++ part) : Fares taken out text (.error (.write e), q) y

/-- A stage goes the way of another one, which adds to what is written, up to a refusal. -/
def Tracks (taken : ω → List UInt8) ⦃α : Type⦄ (x : Stage σ ω α) (y : Stage σ String α) : Prop :=
  ∀ s out full, ∃ text, (y ⟨s, full⟩).2.out = full ++ text ∧
    Fares taken out text (x ⟨s, out⟩) (y ⟨s, full⟩)

lemma Fares.append {out after : ω} {text more : String}
    {x : Except LintError α × Progress σ ω} {y : Except LintError α × Progress σ String}
    (hfirst : taken after = taken out ++ Text.bytes text) (h : Fares taken after more x y) :
    Fares taken out (text ++ more) x y := by
  cases h with
  | whole h =>
    refine .whole ?_
    rw [h, hfirst, Text.bytes_append, List.append_assoc]
  | @cut e q part y hpart h =>
    have htaken : taken q.out = taken out ++ (Text.bytes text ++ part) := by
      rw [h, hfirst, List.append_assoc]
    refine .cut ?_ htaken
    rw [Text.bytes_append]
    exact (List.prefix_append_right_inj _).mpr hpart

lemma throw_apply (e : LintError) (p : Progress σ ω) :
    (MonadExcept.throw e : Stage σ ω α) p = (.error e, p) := rfl

/-- A stage that only writes. -/
lemma tracks_writing {act : ω → Except WriteError Unit × ω}
    {act' : String → Except WriteError Unit × String} {text : String}
    (h : Writer.Puts taken text act) (h' : ∀ full, act' full = (.ok (), full ++ text)) :
    Tracks taken (writing act : Stage σ ω Unit) (writing act') := by
  intro s out full
  refine ⟨text, by simp [writing, h'], ?_⟩
  simp only [writing, h']
  rcases hact : act out with ⟨e | _, after⟩
  · obtain ⟨part, hpart, htaken⟩ := h.of_error hact
    exact .cut hpart htaken
  · exact .whole (h.of_ok hact)

lemma tracks_bind {x : Stage σ ω α} {y : Stage σ String α} {f : α → Stage σ ω β}
    {g : α → Stage σ String β} (hx : Tracks taken x y) (hf : ∀ a, Tracks taken (f a) (g a)) :
    Tracks taken (x >>= f) (y >>= g) := by
  intro s out full
  obtain ⟨text, hy, hfares⟩ := hx s out full
  rcases hyr : y ⟨s, full⟩ with ⟨r, t, full'⟩
  rcases hxr : x ⟨s, out⟩ with ⟨r', t', after⟩
  simp only [hyr, hxr] at hy hfares
  subst hy
  cases hfares with
  | whole htaken =>
    cases r with
    | error e =>
      rw [Stage.bind_of_error hyr, Stage.bind_of_error hxr]
      exact ⟨text, rfl, .whole htaken⟩
    | ok a =>
      rw [Stage.bind_of_ok hyr, Stage.bind_of_ok hxr]
      obtain ⟨more, hmore, hfares⟩ := hf a t after (full ++ text)
      refine ⟨text ++ more, ?_, hfares.append htaken⟩
      rw [hmore, String.append_assoc]
  | cut hpart htaken =>
    -- the one has stopped, the other one may go on
    rw [Stage.bind_of_error hxr]
    cases r with
    | error e =>
      rw [Stage.bind_of_error hyr]
      exact ⟨text, rfl, .cut hpart htaken⟩
    | ok a =>
      rw [Stage.bind_of_ok hyr]
      obtain ⟨more, hmore, -⟩ := hf a t out (full ++ text)
      refine ⟨text ++ more, ?_, .cut (hpart.trans ?_) htaken⟩
      · rw [hmore, String.append_assoc]
      · rw [Text.bytes_append]
        exact List.prefix_append _ _

lemma relates_tracks (h : m.writer.Keeps taken) : m.Relates .collect (Tracks taken) where
  pure a := fun s out full => ⟨"", by simp, .whole (by simp)⟩
  throw _ := fun s out full => ⟨"", by simp [throw_apply], .whole (by simp)⟩
  bind := tracks_bind
  working act := fun s out full => ⟨"", by simp [working], .whole (by simp)⟩
  writeLines lines := tracks_writing (h.writeLines lines) (Writer.writeLines_collect lines)
  flush := tracks_writing h.flush fun full => by simp [withWriter, Writer.collect]

/-! ### The flag of a stage -/

/-- A stage beside the same stage with a watched writer, whose flag shows whether a refusal has
ended it. -/
def Shows ⦃α : Type⦄ (x : Stage σ ω α) (y : Stage σ (ω × Bool) α) : Prop :=
  ∀ s out, ∃ flag, (flag = true ↔ ∃ e, (x ⟨s, out⟩).1 = .error (.write e)) ∧
    y ⟨s, out, false⟩ = ((x ⟨s, out⟩).1, ⟨(x ⟨s, out⟩).2.session, (x ⟨s, out⟩).2.out, flag⟩)

lemma shows_writing (act : ω → Except WriteError Unit × ω) :
    Shows (writing act : Stage σ ω Unit) (writing (Writer.watch act)) := by
  intro s out
  rcases hact : act out with ⟨e | _, after⟩
  · refine ⟨true, ?_, ?_⟩ <;>
      simp [writing, Writer.watch, hact, Except.mapError, Except.isOk, Except.toBool]
  · refine ⟨false, ?_, ?_⟩ <;>
      simp [writing, Writer.watch, hact, Except.mapError, Except.isOk, Except.toBool]

lemma shows_bind {x : Stage σ ω α} {y : Stage σ (ω × Bool) α} {f : α → Stage σ ω β}
    {g : α → Stage σ (ω × Bool) β} (hx : Shows x y) (hf : ∀ a, Shows (f a) (g a)) :
    Shows (x >>= f) (y >>= g) := by
  intro s out
  obtain ⟨flag, hiff, hy⟩ := hx s out
  rcases hxr : x ⟨s, out⟩ with ⟨e | a, t, after⟩
  · rw [hxr] at hiff hy
    rw [Stage.bind_of_error hxr, Stage.bind_of_error hy]
    exact ⟨flag, by simpa using hiff, rfl⟩
  · rw [hxr] at hiff hy
    obtain rfl : flag = false := by simpa using hiff
    rw [Stage.bind_of_ok hxr, Stage.bind_of_ok hy]
    exact hf a t after

lemma relates_shows : m.Relates m.writer.watched Shows where
  pure a := fun s out => ⟨false, by simp, rfl⟩
  throw he := fun s out => ⟨false, by simpa [throw_apply] using he, rfl⟩
  bind := shows_bind
  working act := fun s out => ⟨false, by simp [working], rfl⟩
  writeLines lines := by
    have hshows := shows_writing (σ := σ) (m.writer.writeLines lines)
    rwa [← Writer.writeLines_watched] at hshows
  flush := shows_writing m.writer.flush

/-! ### Runs up to a refusal -/

variable (m inv) in
/-- The same run with a writer that refuses nothing. -/
def unhindered (s : Session σ) : Except LintError Nat × Progress σ String :=
  (m.withWriter .collect).run inv ⟨s, ""⟩

section Run

variable {p q : Progress σ ω}

/-- A chain that was not interrupted by a refusal is followed by its closing lines. -/
lemma fares_run (h : m.writer.Keeps taken) (hlint : ∀ e, (m.lint inv p).1 ≠ .error (.write e)) :
    Fares taken p.out (m.unhindered inv p.session).2.out (m.run inv p)
      (m.unhindered inv p.session) := by
  obtain ⟨text, hout, hfares⟩ := (relates_tracks h).lint inv p.session p.out ""
  unfold unhindered
  rw [run_apply, run_apply]
  rcases hx : m.lint inv p with ⟨r, s, after⟩
  rcases hy : (m.withWriter .collect).lint inv ⟨p.session, ""⟩ with ⟨r', s', full⟩
  have hx' : m.lint inv ⟨p.session, p.out⟩ = (r, ⟨s, after⟩) := hx
  rw [hx] at hlint
  rw [hx', hy] at hfares
  rw [hy] at hout
  simp only [String.empty_append] at hout
  subst hout
  cases hfares with
  | whole htaken =>
    obtain ⟨more, hmore, hclosing⟩ := (relates_tracks h).conclude r s after full
    have hfares := hclosing.append htaken
    rwa [← hmore] at hfares
  | cut _ _ => exact absurd rfl (hlint _)

/-- What has been taken of an interrupted chain. -/
lemma exists_part_of_interrupted (h : m.writer.Keeps taken) {e : WriteError}
    (hlint : m.lint inv p = (.error (.write e), q)) :
    ∃ part, part <+: Text.bytes (m.unhindered inv p.session).2.out ∧
      taken q.out = taken p.out ++ part := by
  obtain ⟨text, hout, hfares⟩ := (relates_tracks h).lint inv p.session p.out ""
  have hlint' : m.lint inv ⟨p.session, p.out⟩ = (.error (.write e), q) := hlint
  unfold unhindered
  rw [run_apply]
  rcases hy : (m.withWriter .collect).lint inv ⟨p.session, ""⟩ with ⟨r, s, full⟩
  rw [hlint', hy] at hfares
  rw [hy] at hout
  simp only [String.empty_append] at hout
  subst hout
  -- the other run goes on from here
  obtain ⟨more, hmore, -⟩ := (relates_tracks h).conclude r s q.out full
  rw [hmore, Text.bytes_append]
  cases hfares with
  | whole htaken => exact ⟨_, List.prefix_append _ _, htaken⟩
  | cut hpart htaken => exact ⟨_, hpart.trans (List.prefix_append _ _), htaken⟩

/-- An interrupted chain is followed by the verdict of failure, or by a part of it. -/
lemma run_of_refusal {e : WriteError} (hlint : m.lint inv p = (.error (.write e), q)) :
    m.run inv p = (do m.writeLines [.ofText Report.lintFailed]; return 1 : Stage σ ω Nat) q := by
  rw [run_apply, hlint]
  rfl

lemma exists_part_of_refusal (h : m.writer.Keeps taken) {e : WriteError}
    (hlint : m.lint inv p = (.error (.write e), q)) :
    ∃ part, part <+: Text.bytes (Report.lintFailed ++ "\n") ∧
      taken (m.run inv p).2.out = taken q.out ++ part ∧
      ((m.run inv p).1 = .ok 1 ∨ ∃ e', (m.run inv p).1 = .error (.write e')) := by
  have hputs := h.writeLines [.ofText Report.lintFailed]
  have htext : Line.textOf [.ofText Report.lintFailed] = Report.lintFailed ++ "\n" := by simp
  rw [htext] at hputs
  rw [run_of_refusal hlint, Stage.bind_eq, writeLines_apply]
  rcases hwrite : m.writer.writeLines [.ofText Report.lintFailed] q.out with ⟨e' | _, after⟩
  · obtain ⟨part, hpart, htaken⟩ := hputs.of_error hwrite
    exact ⟨part, hpart, htaken, .inr ⟨e', rfl⟩⟩
  · exact ⟨_, List.prefix_rfl, hputs.of_ok hwrite, .inl rfl⟩

/-- The flag of a run shows whether anything has been refused. -/
lemma exists_flag (inv : Invocation) (p : Progress σ ω) :
    ∃ flag, (m.withWriter m.writer.watched).run inv ⟨p.session, p.out, false⟩ =
        ((m.run inv p).1, ⟨(m.run inv p).2.session, (m.run inv p).2.out, flag⟩) ∧
      (flag = true ↔ (∃ e, (m.lint inv p).1 = .error (.write e)) ∨
        ∃ e, (m.run inv p).1 = .error (.write e)) := by
  obtain ⟨flag, hiff, hwatched⟩ := relates_shows.lint (m := m) inv p.session p.out
  rcases hlint : m.lint inv p with ⟨r, s, after⟩
  have hlint' : m.lint inv ⟨p.session, p.out⟩ = (r, ⟨s, after⟩) := hlint
  rw [hlint'] at hiff hwatched
  rw [run_apply, hwatched]
  cases flag with
  | true =>
    obtain ⟨e, rfl⟩ := hiff.mp rfl
    have hwatch : (m.withWriter m.writer.watched).writer.writeLines [.ofText Report.lintFailed] =
        Writer.watch _ := Writer.writeLines_watched m.writer [.ofText Report.lintFailed]
    refine ⟨true, ?_, by simp⟩
    rw [run_of_refusal hlint]
    simp only [conclude, closingLines, Stage.bind_eq, writeLines_apply, hwatch, Writer.watch]
    rcases m.writer.writeLines [.ofText Report.lintFailed] after with ⟨_ | _, _⟩ <;> rfl
  | false =>
    obtain ⟨flag, hiff', hclosing⟩ := relates_shows.conclude (m := m) r s after
    refine ⟨flag, ?_, ?_⟩
    · rw [hclosing, run_apply, hlint]
    · rw [hiff', run_apply, hlint]
      have hr : ¬ ∃ e, r = .error (.write e) := by simpa using hiff
      simp [hr]

end Run

/-- **A run with a writer that refuses.** Let `taken` be what a writer has taken, and let it refuse
whatever it likes, once or for ever. What it takes of a run is a beginning of what the same run
writes where nothing is refused, and after it no more than the verdict of failure, and that only if
the chain was interrupted by a refusal. With a flag for refusals the run is the same. If the flag
has been raised the run ends with code 1 or with the error of the writer, and otherwise as if
nothing could be refused. -/
theorem run_with_refusals (h : m.writer.Keeps taken) (inv : Invocation) (p : Progress σ ω) :
    let run := m.run inv p
    let full := m.unhindered inv p.session
    (∃ text tail, taken run.2.out = taken p.out ++ text ++ tail ∧
      text <+: Text.bytes full.2.out ∧ tail <+: Text.bytes (Report.lintFailed ++ "\n") ∧
      (tail ≠ [] → ∃ e, (m.lint inv p).1 = .error (.write e))) ∧
    ∃ refused, (m.withWriter m.writer.watched).run inv ⟨p.session, p.out, false⟩ =
        (run.1, ⟨run.2.session, run.2.out, refused⟩) ∧
      (refused = true → run.1 = .ok 1 ∨ ∃ e, run.1 = .error (.write e)) ∧
      (refused = false → run.1 = full.1 ∧ run.2.session = full.2.session ∧
        taken run.2.out = taken p.out ++ Text.bytes full.2.out) := by
  dsimp only
  obtain ⟨refused, hwatched, hiff⟩ := exists_flag (m := m) inv p
  by_cases hlint : ∃ e, (m.lint inv p).1 = .error (.write e)
  · -- the chain is interrupted, and only its verdict may follow
    have hrefused : refused = true := hiff.mpr (.inl hlint)
    obtain ⟨e, hlint⟩ := hlint
    have hlint' : m.lint inv p = (.error (.write e), (m.lint inv p).2) := Prod.ext hlint rfl
    obtain ⟨text, htext, hbefore⟩ := exists_part_of_interrupted h hlint'
    obtain ⟨tail, htail, hafter, hend⟩ := exists_part_of_refusal h hlint'
    refine ⟨⟨text, tail, ?_, htext, htail, fun _ => ⟨e, hlint⟩⟩, refused, hwatched,
      fun _ => hend, ?_⟩
    · rw [hafter, hbefore]
    · rw [hrefused]
      exact fun h => absurd h (by decide)
  · have hunhurt : ∀ e, (m.lint inv p).1 ≠ .error (.write e) := fun e he => hlint ⟨e, he⟩
    have hfares := fares_run h hunhurt
    rw [or_iff_right hlint] at hiff
    generalize m.run inv p = run at *
    generalize m.unhindered inv p.session = full at *
    cases hfares with
    | @whole r s after text htaken =>
      refine ⟨⟨Text.bytes text, [], ?_, List.prefix_rfl, List.nil_prefix, by simp⟩, refused,
        hwatched, fun hrefused => .inr (hiff.mp hrefused), fun _ => ⟨rfl, rfl, htaken⟩⟩
      rw [htaken, List.append_nil]
    | @cut e q part _ hpart htaken =>
      refine ⟨⟨part, [], ?_, hpart, List.nil_prefix, by simp⟩, refused, hwatched,
        fun hrefused => .inr (hiff.mp hrefused), fun hunrefused => ?_⟩
      · rw [htaken, List.append_nil]
      · have hrefused : refused = true := hiff.mpr ⟨e, rfl⟩
        rw [hunrefused] at hrefused
        cases hrefused

/-- A writer that refuses the third line and then takes everything again is left with two lines of
progress and the verdict of failure, and the code of the run is not 0. -/
theorem run_with_refusals_shelf :
    let m : Setting Shelf LimitedText := ⟨Shelf.host, Shelf.setting.env, LimitedText.writer⟩
    let p : Progress Shelf LimitedText :=
      ⟨.begin [("pyproject.toml", "[tool.lint]\n")], ⟨"", some 2, true, false⟩⟩
    let inv : Invocation := ⟨Shelf.directory, [], true, none, none⟩
    (m.run inv p).2.out.text =
        "Bootstrapping isort ...\nBootstrapping black ...\nLinting failed.\n" ∧
      (∃ text tail, Text.bytes (m.run inv p).2.out.text = text ++ tail ∧
        text <+: Text.bytes (m.unhindered inv p.session).2.out ∧
        tail <+: Text.bytes (Report.lintFailed ++ "\n")) ∧
      ((m.run inv p).1 = .ok 1 ∨ ∃ e, (m.run inv p).1 = .error (.write e)) := by
  intro m p inv
  obtain ⟨⟨text, tail, htaken, htext, htail, -⟩, refused, hwatched, hend, -⟩ :=
    run_with_refusals (m := m) LimitedText.lawful_writer.keeps inv p
  have hflag : ((m.withWriter m.writer.watched).run inv ⟨p.session, p.out, false⟩).2.out.2 =
      true := by decide +kernel
  have hlines : (m.run inv p).2.out.text =
      "Bootstrapping isort ...\nBootstrapping black ...\nLinting failed.\n" := by decide +kernel
  have haccepted (out : LimitedText) : m.writer.accepted out = out.text := rfl
  have hempty : Text.bytes p.out.text = [] := Text.bytes_empty
  rw [hwatched] at hflag
  rw [haccepted, haccepted, hempty, List.nil_append] at htaken
  refine ⟨hlines, ⟨text, tail, htaken, htext, htail⟩, ?_⟩
  exact hend hflag

end Setting

end LintChain

import LintChain.Catalog
import Mathlib.Tactic.Common

/-!
What the end of a process says. Exit codes are read by rules, one for each place that a code can
have in the lists of a tool, and a checker that changed its file is refused on top of them. The
rules leave no end of a process without a status and none with two, so there is one condition for
each status.
-/

namespace LintChain

namespace ExitCodes

variable {codes : ExitCodes} {code? : Option Int} {code : Int} {changed : Bool} {status : Status}

/-- The rules by which an exit code is read. -/
inductive Reads (codes : ExitCodes) (changed : Bool) : Option Int → Status → Prop
  | signalled : Reads codes changed none (.toolError .signalled)
  | zero : Reads codes changed (some 0) .pass
  | finding {code : Int} (hzero : code ≠ 0) (hfinding : code ∈ codes.findings)
      (hchange : code ∉ codes.changes) : Reads codes changed (some code) .findings
  | change {code : Int} (hzero : code ≠ 0) (hfinding : code ∉ codes.findings)
      (hchange : code ∈ codes.changes) (hchanged : changed = true) :
      Reads codes changed (some code) .pass
  | ambiguous {code : Int} (hzero : code ≠ 0) (hchange : code ∈ codes.changes)
      (hdoubt : code ∈ codes.findings ∨ changed = false) :
      Reads codes changed (some code) (.toolError (.ambiguousExit code))
  | crashed {code : Int} (hzero : code ≠ 0) (hfinding : code ∉ codes.findings)
      (hchange : code ∉ codes.changes) :
      Reads codes changed (some code) (.toolError (.crashed code))

/-- Every end of a process is read by a rule. -/
lemma reads_classify (codes : ExitCodes) (code? : Option Int) (changed : Bool) :
    codes.Reads changed code? (codes.classify code? changed) := by
  cases code? with
  | none => exact .signalled
  | some code =>
    by_cases hzero : code = 0
    · subst hzero
      exact .zero
    by_cases hfinding : code ∈ codes.findings <;> by_cases hchange : code ∈ codes.changes
    · simpa [classify, hzero, hfinding, hchange] using .ambiguous hzero hchange (.inl hfinding)
    · simpa [classify, hzero, hfinding, hchange] using .finding hzero hfinding hchange
    · cases hchanged : changed with
      | true => simpa [classify, hzero, hfinding, hchange] using .change hzero hfinding hchange rfl
      | false =>
        simpa [classify, hzero, hfinding, hchange] using .ambiguous hzero hchange (.inr rfl)
    · simpa [classify, hzero, hfinding, hchange] using .crashed hzero hfinding hchange

/-- No end of a process is read in two ways. -/
lemma Reads.unique {status' : Status} (h : codes.Reads changed code? status)
    (h' : codes.Reads changed code? status') : status = status' := by
  cases h <;> cases h' <;> simp_all

lemma classify_eq_iff :
    codes.classify code? changed = status ↔ codes.Reads changed code? status :=
  ⟨fun h => h ▸ reads_classify codes code? changed, (reads_classify codes code? changed).unique⟩

/-! ### One condition for each reading -/

lemma reads_signalled_iff : codes.Reads changed code? (.toolError .signalled) ↔ code? = none :=
  ⟨fun h => by cases h; rfl, fun h => h ▸ .signalled⟩

lemma reads_pass_iff : codes.Reads changed code? .pass ↔ ∃ code, code? = some code ∧
    (code = 0 ∨ code ∈ codes.changes ∧ code ∉ codes.findings ∧ changed = true) := by
  constructor
  · intro h
    cases h with
    | zero => exact ⟨0, rfl, .inl rfl⟩
    | change hzero hfinding hchange hchanged =>
      exact ⟨_, rfl, .inr ⟨hchange, hfinding, hchanged⟩⟩
  · rintro ⟨code, rfl, h⟩
    by_cases hzero : code = 0
    · exact hzero ▸ .zero
    · obtain ⟨hchange, hfinding, hchanged⟩ := h.resolve_left hzero
      exact .change hzero hfinding hchange hchanged

lemma reads_findings_iff : codes.Reads changed code? .findings ↔ ∃ code, code? = some code ∧
    code ≠ 0 ∧ code ∈ codes.findings ∧ code ∉ codes.changes := by
  constructor
  · intro h
    cases h with
    | finding hzero hfinding hchange => exact ⟨_, rfl, hzero, hfinding, hchange⟩
  · rintro ⟨code, rfl, hzero, hfinding, hchange⟩
    exact .finding hzero hfinding hchange

lemma reads_ambiguousExit_iff : codes.Reads changed code? (.toolError (.ambiguousExit code)) ↔
    code? = some code ∧ code ≠ 0 ∧ code ∈ codes.changes ∧
      (code ∈ codes.findings ∨ changed = false) := by
  constructor
  · intro h
    cases h with
    | ambiguous hzero hchange hdoubt => exact ⟨rfl, hzero, hchange, hdoubt⟩
  · rintro ⟨rfl, hzero, hchange, hdoubt⟩
    exact .ambiguous hzero hchange hdoubt

lemma reads_crashed_iff : codes.Reads changed code? (.toolError (.crashed code)) ↔
    code? = some code ∧ code ≠ 0 ∧ code ∉ codes.findings ∧ code ∉ codes.changes := by
  constructor
  · intro h
    cases h with
    | crashed hzero hfinding hchange => exact ⟨rfl, hzero, hfinding, hchange⟩
  · rintro ⟨rfl, hzero, hfinding, hchange⟩
    exact .crashed hzero hfinding hchange

end ExitCodes

/-! ### Checkers -/

namespace Spec

variable {spec : Spec} {code? : Option Int} {changed : Bool} {status : Status} {reason : ToolError}

/-- The tool may not have changed the file that it was given, but did. -/
def Oversteps (spec : Spec) (changed : Bool) : Prop := spec.role = .checker ∧ changed = true

lemma not_oversteps_iff : ¬ spec.Oversteps changed ↔ spec.role = .fixer ∨ changed = false := by
  unfold Oversteps
  cases spec.role <;> simp

/-- A tool that oversteps keeps none but the errors. -/
lemma classify_of_oversteps (h : spec.Oversteps changed) : spec.classify code? changed =
    if (spec.exitCodes.classify code? changed).isToolError then
      spec.exitCodes.classify code? changed
    else .toolError .unexpectedChange := by
  obtain ⟨hrole, rfl⟩ := h
  cases herror : (spec.exitCodes.classify code? true).isToolError <;>
    simp [classify, isFixer, hrole, herror]

lemma classify_of_not_oversteps (h : ¬ spec.Oversteps changed) :
    spec.classify code? changed = spec.exitCodes.classify code? changed := by
  rcases not_oversteps_iff.mp h with hrole | rfl
  · simp [classify, isFixer, hrole]
  · simp [classify]

lemma classify_eq_toolError_iff (hreason : reason ≠ .unexpectedChange) :
    spec.classify code? changed = .toolError reason ↔
      spec.exitCodes.Reads changed code? (.toolError reason) := by
  rw [← ExitCodes.classify_eq_iff]
  by_cases h : spec.Oversteps changed
  · rw [classify_of_oversteps h]
    cases spec.exitCodes.classify code? changed <;>
      simp [Status.isToolError, Ne.symm hreason]
  · rw [classify_of_not_oversteps h]

lemma classify_eq_iff_of_not_toolError (hstatus : status.isToolError = false) :
    spec.classify code? changed = status ↔
      spec.exitCodes.Reads changed code? status ∧ (spec.role = .fixer ∨ changed = false) := by
  rw [← ExitCodes.classify_eq_iff, ← not_oversteps_iff]
  by_cases h : spec.Oversteps changed
  · rw [classify_of_oversteps h]
    refine iff_of_false (fun hsame => ?_) fun hfine => hfine.2 h
    -- both ways out are tool errors
    split at hsame
    next herror => simp [hsame, hstatus] at herror
    next => simp [← hsame, Status.isToolError] at hstatus
  · rw [classify_of_not_oversteps h, and_iff_left h]

lemma classify_eq_unexpectedChange_iff :
    spec.classify code? changed = .toolError .unexpectedChange ↔ spec.Oversteps changed ∧
      (spec.exitCodes.Reads changed code? .pass ∨
        spec.exitCodes.Reads changed code? .findings) := by
  have hreads := ExitCodes.reads_classify spec.exitCodes code? changed
  simp only [← ExitCodes.classify_eq_iff]
  by_cases h : spec.Oversteps changed
  · rw [classify_of_oversteps h, and_iff_right h]
    generalize spec.exitCodes.classify code? changed = status at hreads
    cases hreads <;> simp [Status.isToolError]
  · rw [classify_of_not_oversteps h]
    generalize spec.exitCodes.classify code? changed = status at hreads
    cases hreads <;> simp [h]

/-- There are six statuses that the end of a process can come to. -/
lemma classify_cases (spec : Spec) (code? : Option Int) (changed : Bool) :
    let status := spec.classify code? changed
    status = .toolError .signalled ∨ status = .pass ∨ status = .findings ∨
      (∃ code, status = .toolError (.ambiguousExit code)) ∨
      (∃ code, status = .toolError (.crashed code)) ∨ status = .toolError .unexpectedChange := by
  intro status
  have hreads := ExitCodes.reads_classify spec.exitCodes code? changed
  by_cases h : spec.Oversteps changed
  · simp only [status, classify_of_oversteps h]
    generalize spec.exitCodes.classify code? changed = status at hreads
    cases hreads <;> simp [Status.isToolError]
  · simp only [status, classify_of_not_oversteps h]
    generalize spec.exitCodes.classify code? changed = status at hreads
    cases hreads <;> simp

/-- **One condition for each status**, whatever the codes of a tool are. A process without a code
was signalled. Code 0 passes, and so does a code that stands for a change alone, if there was one; a
code that stands for findings alone reports them. Any other code that stands for a change is
ambiguous, and a code that stands for nothing is a crash. A checker that changed its file neither
passes nor reports: what would have been one of these is an unexpected change, and nothing else
is. -/
theorem status_conditions (spec : Spec) (code? : Option Int) (changed : Bool) :
    let findings := spec.exitCodes.findings
    let changes := spec.exitCodes.changes
    let status := spec.classify code? changed
    let forFixer := { spec with role := .fixer }.classify code? changed
    (status = .toolError .signalled ↔ code? = none) ∧
    (status = .pass ↔
      (∃ code, code? = some code ∧
        (code = 0 ∨ code ∈ changes ∧ code ∉ findings ∧ changed = true)) ∧
      (spec.role = .fixer ∨ changed = false)) ∧
    (status = .findings ↔
      (∃ code, code? = some code ∧ code ≠ 0 ∧ code ∈ findings ∧ code ∉ changes) ∧
      (spec.role = .fixer ∨ changed = false)) ∧
    (∀ code, status = .toolError (.ambiguousExit code) ↔
      code? = some code ∧ code ≠ 0 ∧ code ∈ changes ∧ (code ∈ findings ∨ changed = false)) ∧
    (∀ code, status = .toolError (.crashed code) ↔
      code? = some code ∧ code ≠ 0 ∧ code ∉ findings ∧ code ∉ changes) ∧
    (status = .toolError .unexpectedChange ↔
      spec.role = .checker ∧ changed = true ∧ (forFixer = .pass ∨ forFixer = .findings)) ∧
    (status = .toolError .unexpectedChange ↔
      status ≠ .toolError .signalled ∧ status ≠ .pass ∧ status ≠ .findings ∧
      (∀ code, status ≠ .toolError (.ambiguousExit code)) ∧
      ∀ code, status ≠ .toolError (.crashed code)) := by
  intro findings changes status forFixer
  refine ⟨?signalled, ?pass, ?findings, fun code => ?ambiguous, fun code => ?crashed, ?unexpected,
    ?rest⟩
  case signalled =>
    rw [classify_eq_toolError_iff (by simp), ExitCodes.reads_signalled_iff]
  case pass =>
    rw [classify_eq_iff_of_not_toolError rfl, ExitCodes.reads_pass_iff]
  case findings =>
    rw [classify_eq_iff_of_not_toolError rfl, ExitCodes.reads_findings_iff]
  case ambiguous =>
    rw [classify_eq_toolError_iff (by simp), ExitCodes.reads_ambiguousExit_iff]
  case crashed =>
    rw [classify_eq_toolError_iff (by simp), ExitCodes.reads_crashed_iff]
  case unexpected =>
    have hfixer : forFixer = spec.exitCodes.classify code? changed :=
      classify_of_not_oversteps (not_oversteps_iff.mpr (.inl rfl))
    rw [classify_eq_unexpectedChange_iff, hfixer, ExitCodes.classify_eq_iff,
      ExitCodes.classify_eq_iff, Oversteps, and_assoc]
  case rest =>
    have hcases := classify_cases spec code? changed
    constructor
    · intro h
      simp [status, h]
    · rintro ⟨hsignalled, hpass, hfindings, hambiguous, hcrashed⟩
      rcases hcases with h | h | h | ⟨code, h⟩ | ⟨code, h⟩ | h
      · exact absurd h hsignalled
      · exact absurd h hpass
      · exact absurd h hfindings
      · exact absurd h (hambiguous code)
      · exact absurd h (hcrashed code)
      · exact h

/-- A code in both lists is ambiguous even where a checker changed its file. -/
example : (Spec.classify { Linter.flake8.spec with exitCodes := ⟨[1], [1]⟩ } (some 1) true) =
    .toolError (.ambiguousExit 1) := by decide

end Spec

end LintChain

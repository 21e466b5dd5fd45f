import LintChain.Proofs.Shelf
import Mathlib.Data.Set.Function

/-!
What becomes of a file while its linters run. It is looked at before every invocation and after it,
and what one invocation leaves is what the next one begins with. So no change gets lost between two
of them, whatever becomes of the processes.
-/

namespace LintChain.Plan

variable {σ : Type}

/-- The content of a target, if it can be read. -/
def content? (host : Host σ) (target : Target) (s : Session σ) : Option ByteArray :=
  (host.read s.machine target.absolute).toOption

section Trail

variable (host : Host σ) (env : Environment) (plan : Plan) (target : Target)

/-- The sessions that linters lead through: the one before the first, and the one after each. -/
def trail : List PlannedLinter → Session σ → List (Session σ)
  | [], s => [s]
  | planned :: rest, s => s :: trail rest (plan.invoke host env planned target s).2

/-- The contents that a file has on the way. -/
def contents (linters : List PlannedLinter) (s : Session σ) : Set ByteArray :=
  {bytes | ∃ t ∈ plan.trail host env target linters s, content? host target t = some bytes}

/-- One invocation, between the session before it and the one after it. -/
structure Link (planned : PlannedLinter) (before : Session σ) (result : ToolResult)
    (after : Session σ) : Prop where
  /-- One process is started on the file as it is before, and leaves it as it is after. -/
  works (h : content? host target before ≠ none) :
    after.started = before.started ++ [plan.toolCommand env planned target] ∧
      after.machine = (host.perform (plan.toolCommand env planned target) before.machine).2
  rests (h : content? host target before = none) : after = before
  unavailable (h : content? host target before = none ∨ content? host target after = none) :
    ∃ message, result.status = .toolError (.fileUnavailable message)
  changed_iff : result.changed ↔ content? host target before ≠ none ∧
    content? host target after ≠ content? host target before

end Trail

variable {host : Host σ} {env : Environment} {plan : Plan} {target : Target}
  {planned : PlannedLinter} {linters : List PlannedLinter} {s before after : Session σ}
  {result : ToolResult}

lemma content?_of_error {reason : SystemError}
    (h : host.read s.machine target.absolute = .error reason) : content? host target s = none := by
  simp [content?, h, Except.toOption]

lemma content?_of_ok {bytes : ByteArray}
    (h : host.read s.machine target.absolute = .ok bytes) :
    content? host target s = some bytes := by
  simp [content?, h, Except.toOption]

lemma content?_eq_some_iff {bytes : ByteArray} : content? host target s = some bytes ↔
    host.read s.machine target.absolute = .ok bytes := by
  unfold content?
  cases host.read s.machine target.absolute <;> simp [Except.toOption]

/-! ### One invocation -/

lemma changed_judge_of_error (linter : Linter) (absolute : Path) (snapshot : Snapshot)
    (ended : Except CommandError Output) (reason : SystemError) :
    (judge linter absolute snapshot ended (.error reason)).changed = true ∧
      (judge linter absolute snapshot ended (.error reason)).status =
        .toolError (.fileUnavailable (Snapshot.failure absolute reason)) := by
  cases ended <;> exact ⟨rfl, rfl⟩

lemma changed_judge_of_ok (linter : Linter) (absolute : Path) (snapshot snapshot' : Snapshot)
    (ended : Except CommandError Output) :
    (judge linter absolute snapshot ended (.ok snapshot')).changed =
      decide (snapshot' ≠ snapshot) := by
  cases ended <;> rfl

/-- Every invocation is a link, if its file does not change into one with the same digest. -/
lemma link_invoke
    (hdigest : ∀ a b, content? host target s = some a →
      content? host target (plan.invoke host env planned target s).2 = some b →
      Sha256.digest a = Sha256.digest b → a = b) :
    Link host env plan target planned s (plan.invoke host env planned target s).1
      (plan.invoke host env planned target s).2 := by
  cases hbefore : host.read s.machine target.absolute with
  | error reason =>
    rw [invoke_of_unreadable hbefore]
    exact ⟨fun h => absurd (content?_of_error hbefore) h, fun _ => rfl, fun _ => ⟨_, rfl⟩,
      by simp [ToolResult.fileUnavailable]⟩
  | ok bytes =>
    have hsome := content?_of_ok hbefore
    rw [invoke_of_readable hbefore] at hdigest ⊢
    simp only [Session.run_eq_await] at hdigest ⊢
    set last := (Session.await host (plan.toolCommand env planned target) _).2 with hlast
    refine ⟨fun _ => ⟨by simp [hlast], by simp [hlast]⟩, fun h => by simp [hsome] at h, ?_, ?_⟩
    · -- the file was there before, so it is missing after
      intro h
      cases hafter : host.read last.machine target.absolute with
      | error reason =>
        simp only [Snapshot.take, hafter, Except.map]
        exact ⟨_, (changed_judge_of_error _ _ _ _ _).2⟩
      | ok bytes' => simp [hsome, content?_of_ok hafter] at h
    · cases hafter : host.read last.machine target.absolute with
      | error reason =>
        simp only [Snapshot.take, hafter, Except.map, (changed_judge_of_error _ _ _ _ _).1]
        simp [hsome, content?_of_error hafter]
      | ok bytes' =>
        have hinj := hdigest bytes bytes' hsome (content?_of_ok hafter)
        simp only [Snapshot.take, hafter, Except.map, changed_judge_of_ok, hsome,
          content?_of_ok hafter, decide_eq_true_eq]
        simp only [ne_eq, reduceCtorEq, not_false_eq_true, Option.some.injEq, true_and, not_iff_not]
        exact ⟨fun h => (hinj h.symm).symm, fun h => by rw [h]⟩

/-- An invocation reports no change exactly where the file is as before. -/
lemma Link.changed_eq_false_iff (h : Link host env plan target planned before result after) :
    result.changed = false ↔ content? host target after = content? host target before := by
  rw [← Bool.not_eq_true, h.changed_iff, not_and_or, not_not, not_not, or_iff_right_iff_imp]
  intro hnone
  rw [h.rests hnone]

/-! ### All invocations -/

lemma length_trail : (plan.trail host env target linters s).length = linters.length + 1 := by
  induction linters generalizing s with
  | nil => rfl
  | cons planned rest ih => simp [trail, ih]

lemma head?_trail : (plan.trail host env target linters s).head? = some s := by
  cases linters <;> rfl

lemma getLast?_trail : (plan.trail host env target linters s).getLast? =
    some (plan.invokeAll host env target linters s).2 := by
  induction linters generalizing s with
  | nil => rfl
  | cons planned rest ih =>
    rw [trail, List.getLast?_cons, ih]
    rfl

lemma mem_trail_self : s ∈ plan.trail host env target linters s :=
  List.mem_of_head? head?_trail

lemma mem_contents {bytes : ByteArray} {t : Session σ}
    (ht : t ∈ plan.trail host env target linters s)
    (h : content? host target t = some bytes) : bytes ∈ plan.contents host env target linters s :=
  ⟨t, ht, h⟩

/-- What a file has later on the way it has on the way. -/
lemma contents_invoke_subset (planned : PlannedLinter) (rest : List PlannedLinter) :
    plan.contents host env target rest (plan.invoke host env planned target s).2 ⊆
      plan.contents host env target (planned :: rest) s :=
  fun _ ⟨_, ht, hbytes⟩ => mem_contents (List.mem_cons_of_mem _ ht) hbytes

/-- The first of several invocations is a link. -/
lemma link_first {rest : List PlannedLinter}
    (hdigest : Set.InjOn Sha256.digest (plan.contents host env target (planned :: rest) s)) :
    Link host env plan target planned s (plan.invoke host env planned target s).1
      (plan.invoke host env planned target s).2 :=
  link_invoke fun _ _ ha hb => hdigest (mem_contents mem_trail_self ha)
    (mem_contents (List.mem_cons_of_mem _ mem_trail_self) hb)

section Links

variable (hdigest : Set.InjOn Sha256.digest (plan.contents host env target linters s))

include hdigest

lemma links {i : Nat} (hplanned : linters[i]? = some planned) :
    ∃ before result after, (plan.trail host env target linters s)[i]? = some before ∧
      (plan.invokeAll host env target linters s).1[i]? = some result ∧
      (plan.trail host env target linters s)[i + 1]? = some after ∧
      Link host env plan target planned before result after := by
  induction linters generalizing s i with
  | nil => simp at hplanned
  | cons first rest ih =>
    cases i with
    | zero =>
      obtain rfl : first = planned := by simpa using hplanned
      refine ⟨s, _, (plan.invoke host env first target s).2, rfl, rfl, ?_, link_first hdigest⟩
      rw [trail, List.getElem?_cons_succ, ← List.head?_eq_getElem?, head?_trail]
    | succ i =>
      exact ih (hdigest.mono (contents_invoke_subset first rest)) (by simpa using hplanned)

/-- The results report no change exactly where the file is the same all along. -/
lemma changed_eq_false_iff : (∀ result ∈ (plan.invokeAll host env target linters s).1,
      result.changed = false) ↔
    ∀ t ∈ plan.trail host env target linters s,
      content? host target t = content? host target s := by
  induction linters generalizing s with
  | nil => simp [invokeAll, trail]
  | cons first rest ih =>
    have hrest := ih (hdigest.mono (contents_invoke_subset first rest))
    simp only [invokeAll, trail, List.forall_mem_cons, (link_first hdigest).changed_eq_false_iff,
      hrest, true_and]
    constructor
    · rintro ⟨hfirst, h⟩ t ht
      exact (h t ht).trans hfirst
    · intro h
      have hfirst := h _ mem_trail_self
      exact ⟨hfirst, fun t ht => (h t ht).trans hfirst.symm⟩

end Links

/-- On a file that cannot be read nothing is done any more. -/
lemma invokeAll_of_unreadable (h : content? host target s = none) :
    (plan.invokeAll host env target linters s).2 = s ∧
      ∀ result ∈ (plan.invokeAll host env target linters s).1,
        (∃ message, result.status = .toolError (.fileUnavailable message)) ∧
          result.changed = false := by
  induction linters with
  | nil => simp [invokeAll]
  | cons first rest ih =>
    have hlink : Link host env plan target first s _ (plan.invoke host env first target s).2 :=
      link_invoke fun a b ha => by simp [h] at ha
    have hsame := hlink.rests h
    simp only [invokeAll, hsame, List.forall_mem_cons]
    exact ⟨ih.1, ⟨hlink.unavailable (.inl h), hlink.changed_eq_false_iff.mpr (by rw [hsame])⟩,
      ih.2⟩

lemma unreadable_from {i : Nat} {t : Session σ}
    (ht : (plan.trail host env target linters s)[i]? = some t)
    (h : content? host target t = none) :
    (plan.invokeAll host env target linters s).2 = t ∧
      ∀ j result, i ≤ j → (plan.invokeAll host env target linters s).1[j]? = some result →
        (∃ message, result.status = .toolError (.fileUnavailable message)) ∧
          result.changed = false := by
  induction linters generalizing s i with
  | nil =>
    obtain ⟨-, rfl⟩ : i = 0 ∧ s = t := by
      cases i <;> simp_all [trail]
    simp [invokeAll]
  | cons first rest ih =>
    cases i with
    | zero =>
      obtain rfl : s = t := by simpa [trail] using ht
      obtain ⟨hlast, hresults⟩ := invokeAll_of_unreadable h
      exact ⟨hlast, fun j result _ hresult => hresults result (List.mem_of_getElem? hresult)⟩
    | succ i =>
      obtain ⟨hlast, hresults⟩ := ih (by simpa [trail] using ht)
      refine ⟨hlast, fun j result hij hresult => ?_⟩
      obtain ⟨j, rfl⟩ : ∃ k, j = k + 1 := ⟨j - 1, by omega⟩
      exact hresults j result (by omega) (by simpa [invokeAll] using hresult)

/-- **No change goes unreported.** Let no two contents that a file has on the way through its
linters have the same digest. Then each invocation begins with the session that the one before it
has left; it starts one process where the file can be read, on the file as it is then, and reports a
change exactly if the file is another one after it or cannot be read any more. Once the file cannot
be read nothing more is done, and every later result says so without reporting a change. The report
on the file tells of a change exactly if the file was not the same all along. -/
theorem changes_reported (host : Host σ) (env : Environment) (plan : Plan) (target : Target)
    (s : Session σ)
    (hdigest : Set.InjOn Sha256.digest (plan.contents host env target (plan.lintersFor target) s)) :
    let sessions := plan.trail host env target (plan.lintersFor target) s
    let report := (plan.lintFile host env target s).1
    let last := (plan.lintFile host env target s).2
    sessions.length = (plan.lintersFor target).length + 1 ∧
    sessions.head? = some s ∧ sessions.getLast? = some last ∧
    report.results.map (·.linter) = (plan.lintersFor target).map (·.linter.linter) ∧
    (∀ i planned, (plan.lintersFor target)[i]? = some planned →
      ∃ before result after, sessions[i]? = some before ∧ report.results[i]? = some result ∧
        sessions[i + 1]? = some after ∧ Link host env plan target planned before result after) ∧
    (∀ (i : Nat) t, sessions[i]? = some t → content? host target t = none →
      last = t ∧ ∀ j result, i ≤ j → report.results[j]? = some result →
        (∃ message, result.status = .toolError (.fileUnavailable message)) ∧
          result.changed = false) ∧
    (report.changed = false ↔ ∀ t ∈ sessions, content? host target t = content? host target s) := by
  intro sessions report last
  refine ⟨length_trail, head?_trail, getLast?_trail, map_linter_invokeAll _,
    fun i planned hplanned => links hdigest hplanned,
    fun i t ht hnone => unreadable_from ht hnone, ?_⟩
  rw [← changed_eq_false_iff hdigest]
  simp [report, FileReport.changed, lintFile_eq]

/-- isort ends the last line of a file on a shelf, and flake8 finds nothing left to do. -/
theorem changes_reported_shelf :
    let plan : Plan := ⟨Shelf.directory,
      [⟨.ofSpec Linter.isort.spec, ⟨"/bin/isort"⟩⟩, ⟨.ofSpec Linter.flake8.spec, ⟨"/bin/flake8"⟩⟩],
      some 2, none⟩
    let target : Target := ⟨⟨"a.py"⟩, ⟨"/shelf/a.py"⟩⟩
    let env : Environment := ⟨Shelf.directory, [], none⟩
    let s := Session.begin [("a.py", "x = 1")]
    Set.InjOn Sha256.digest (plan.contents Shelf.host env target (plan.lintersFor target) s) ∧
      (plan.lintFile Shelf.host env target s).1.changed = true := by
  intro plan target env s
  have hstates : (plan.trail Shelf.host env target (plan.lintersFor target) s).map
      (content? Shelf.host target) =
        [some "x = 1".toUTF8, some "x = 1\n".toUTF8, some "x = 1\n".toUTF8] := by decide +kernel
  have hdigest : Set.InjOn Sha256.digest
      (plan.contents Shelf.host env target (plan.lintersFor target) s) := by
    have hne : Sha256.digest "x = 1".toUTF8 ≠ Sha256.digest "x = 1\n".toUTF8 := by decide +kernel
    have hcontents : ∀ a ∈ plan.contents Shelf.host env target (plan.lintersFor target) s,
        a = "x = 1".toUTF8 ∨ a = "x = 1\n".toUTF8 := by
      rintro a ⟨t, ht, ha⟩
      have hmem := List.mem_map_of_mem (f := content? Shelf.host target) ht
      rw [hstates, ha] at hmem
      simpa using hmem
    intro a ha b hb hab
    rcases hcontents a ha with rfl | rfl <;> rcases hcontents b hb with rfl | rfl
    · rfl
    · exact absurd hab hne
    · exact absurd hab.symm hne
    · rfl
  refine ⟨hdigest, ?_⟩
  have hiff := (changes_reported Shelf.host env plan target s hdigest).2.2.2.2.2.2
  rw [← Bool.not_eq_false, hiff]
  intro hsame
  have hall : ∀ c ∈ (plan.trail Shelf.host env target (plan.lintersFor target) s).map
      (content? Shelf.host target), c = content? Shelf.host target s := by
    simpa using hsame
  rw [hstates] at hall
  obtain ⟨hfirst, hall⟩ := List.forall_mem_cons.mp hall
  obtain ⟨hsecond, -⟩ := List.forall_mem_cons.mp hall
  exact absurd (hfirst.trans hsecond.symm) (by decide +kernel)

end LintChain.Plan

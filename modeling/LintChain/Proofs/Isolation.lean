import LintChain.Proofs.Invocation

/-!
Machines on which an invocation reads and writes only the file that it is about. There the work on
a file does not depend on when it is done: linting files with no file in common one after the other
gives each the report that it would have been given first.
-/

namespace LintChain

variable {σ κ γ : Type}

/-- What a machine is like at a file `k` is `view s k`, and `file` tells which file a target is. An
invocation on a target then depends on that file alone, and leaves the others as they are. -/
structure Confined (host : Host σ) (env : Environment) (plan : Plan) (targets : List Target)
    (file : Target → κ) (view : σ → κ → γ) : Prop where
  read_eq {target : Target} (ht : target ∈ targets) {s t : σ}
    (h : view s (file target) = view t (file target)) :
    host.read s target.absolute = host.read t target.absolute
  result_eq {planned : PlannedLinter} (hp : planned ∈ plan.linters) {target : Target}
    (ht : target ∈ targets) {s t : σ} (h : view s (file target) = view t (file target)) :
    (host.perform (plan.toolCommand env planned target) s).1 =
      (host.perform (plan.toolCommand env planned target) t).1
  effect_eq {planned : PlannedLinter} (hp : planned ∈ plan.linters) {target : Target}
    (ht : target ∈ targets) {s t : σ} (h : view s (file target) = view t (file target)) :
    view (host.perform (plan.toolCommand env planned target) s).2 (file target) =
      view (host.perform (plan.toolCommand env planned target) t).2 (file target)
  frame {planned : PlannedLinter} (hp : planned ∈ plan.linters) {target : Target}
    (ht : target ∈ targets) (s : σ) {k : κ} (hk : k ≠ file target) :
    view (host.perform (plan.toolCommand env planned target) s).2 k = view s k

namespace Confined

variable {host : Host σ} {env : Environment} {plan : Plan} {targets : List Target}
  {file : Target → κ} {view : σ → κ → γ} (c : Confined host env plan targets file view)
  {target : Target} (ht : target ∈ targets)

include c ht

section Invoke

variable {planned : PlannedLinter} (hp : planned ∈ plan.linters)

include hp

lemma invoke_congr {s t : Session σ}
    (h : view s.machine (file target) = view t.machine (file target)) :
    (plan.invoke host env planned target s).1 = (plan.invoke host env planned target t).1 ∧
      view (plan.invoke host env planned target s).2.machine (file target) =
        view (plan.invoke host env planned target t).2.machine (file target) := by
  have hread := c.read_eq ht h
  cases hs : host.read s.machine target.absolute with
  | error reason =>
    rw [Plan.invoke_of_unreadable hs, Plan.invoke_of_unreadable (hread ▸ hs)]
    exact ⟨rfl, h⟩
  | ok bytes =>
    rw [Plan.invoke_of_readable hs, Plan.invoke_of_readable (hread ▸ hs)]
    have heffect := c.effect_eq hp ht h
    simp only [Session.run_eq_await, Session.fst_await, Session.machine_await,
      Session.machine_record, Session.machine_warn, c.result_eq hp ht h, Snapshot.take,
      c.read_eq ht heffect, heffect, and_self]

lemma invoke_frame (s : Session σ) {k : κ} (hk : k ≠ file target) :
    view (plan.invoke host env planned target s).2.machine k = view s.machine k := by
  cases hs : host.read s.machine target.absolute with
  | error reason => rw [Plan.invoke_of_unreadable hs]
  | ok bytes =>
    rw [Plan.invoke_of_readable hs]
    simpa [Session.run_eq_await] using c.frame hp ht s.machine hk

end Invoke

lemma invokeAll_congr {xs : List PlannedLinter} (hxs : ∀ x ∈ xs, x ∈ plan.linters)
    {s t : Session σ} (h : view s.machine (file target) = view t.machine (file target)) :
    (plan.invokeAll host env target xs s).1 = (plan.invokeAll host env target xs t).1 ∧
      view (plan.invokeAll host env target xs s).2.machine (file target) =
        view (plan.invokeAll host env target xs t).2.machine (file target) := by
  induction xs generalizing s t with
  | nil => exact ⟨rfl, h⟩
  | cons x xs ih =>
    obtain ⟨hx, hxs⟩ := List.forall_mem_cons.mp hxs
    obtain ⟨hresult, hview⟩ := c.invoke_congr ht hx h
    obtain ⟨hresults, hviews⟩ := ih hxs hview
    simp [Plan.invokeAll, hresult, hresults, hviews]

lemma invokeAll_frame {xs : List PlannedLinter} (hxs : ∀ x ∈ xs, x ∈ plan.linters)
    (s : Session σ) {k : κ} (hk : k ≠ file target) :
    view (plan.invokeAll host env target xs s).2.machine k = view s.machine k := by
  induction xs generalizing s with
  | nil => rfl
  | cons x xs ih =>
    obtain ⟨hx, hxs⟩ := List.forall_mem_cons.mp hxs
    exact (ih hxs _).trans (c.invoke_frame ht hx s hk)

lemma lintFile_congr {s t : Session σ}
    (h : view s.machine (file target) = view t.machine (file target)) :
    (plan.lintFile host env target s).1 = (plan.lintFile host env target t).1 ∧
      view (plan.lintFile host env target s).2.machine (file target) =
        view (plan.lintFile host env target t).2.machine (file target) := by
  obtain ⟨hresults, hview⟩ := c.invokeAll_congr ht
    (fun x (hx : x ∈ plan.lintersFor target) => (Plan.mem_lintersFor.mp hx).1) h
  simp only [Plan.lintFile_eq, hresults, hview, and_self]

lemma lintFile_frame (s : Session σ) {k : κ} (hk : k ≠ file target) :
    view (plan.lintFile host env target s).2.machine k = view s.machine k :=
  c.invokeAll_frame ht (fun _ hx => (Plan.mem_lintersFor.mp hx).1) s hk

omit ht

/-- **One after the other is each for itself**: files with no file in common get the reports, and
are left in the state, that linting them first would have come to. -/
theorem lintFiles_eq {ts : List Target} (hts : ∀ t ∈ ts, t ∈ targets)
    (hdistinct : (ts.map file).Nodup) (s : Session σ) :
    (plan.lintFiles host env ts s).1 = ts.map (fun t => (plan.lintFile host env t s).1) ∧
      (∀ t ∈ ts, view (plan.lintFiles host env ts s).2.machine (file t) =
        view (plan.lintFile host env t s).2.machine (file t)) ∧
      ∀ k, k ∉ ts.map file → view (plan.lintFiles host env ts s).2.machine k =
        view s.machine k := by
  induction ts generalizing s with
  | nil => exact ⟨rfl, by simp, fun k _ => rfl⟩
  | cons t ts ih =>
    obtain ⟨ht, hts⟩ := List.forall_mem_cons.mp hts
    obtain ⟨hnot, hdistinct⟩ := List.nodup_cons.mp hdistinct
    obtain ⟨hreports, hviews, hrest⟩ := ih hts hdistinct (plan.lintFile host env t s).2
    -- linting `t` leaves the later files as they are
    have hlater : ∀ u ∈ ts, view (plan.lintFile host env t s).2.machine (file u) =
        view s.machine (file u) := fun u hu =>
      c.lintFile_frame ht s fun h => hnot (h ▸ List.mem_map_of_mem hu)
    refine ⟨?_, ?_, ?_⟩
    · simp only [Plan.lintFiles, List.map_cons, List.cons.injEq, true_and]
      rw [hreports]
      exact List.map_congr_left fun u hu => (c.lintFile_congr (hts u hu) (hlater u hu)).1
    · rintro u hu
      rcases List.mem_cons.mp hu with rfl | hu
      · exact hrest _ hnot
      · exact (hviews u hu).trans (c.lintFile_congr (hts u hu) (hlater u hu)).2
    · intro k hk
      simp only [List.map_cons, List.mem_cons, not_or] at hk
      exact (hrest k hk.2).trans (c.lintFile_frame ht s hk.1)

end Confined

end LintChain

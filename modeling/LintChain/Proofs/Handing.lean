import LintChain.Proofs.Invocation
import LintChain.Proofs.Selection

/-!
What is handed to the tools. A file is looked at under the absolute path of its target, and a tool
is started in the working directory with the spelling of the target behind its other arguments.
Both paths have the same steps, and lead to the same file whenever a tool is started, whatever
became of the files since they were found.
-/

namespace LintChain

lemma FileTree.exists_of_read {tree : FileTree} {p : Path} {bytes : ByteArray}
    (h : tree.read p = .ok bytes) : ∃ found, tree.lookUp p = .ok found := by
  unfold read at h
  cases hlook : tree.lookUp p with
  | error reason => simp [hlook, bind, Except.bind] at h
  | ok found => exact ⟨found, rfl⟩

namespace Discovery

variable {σ : Type} {host : Host σ} {state : σ} {tree : FileTree} {cwd argument : Path} {t : Target}
  {place : List String}

/-- **The spelling leads a process in the working directory to where the absolute path leads**, in
the tree of that time. -/
lemma Stands.lookUpFrom_eq (h : Stands tree cwd argument t place) (htree : tree.WellNamed)
    {now : FileTree} {here : List String} {found : List String × FileTree}
    (hhere : now.enter cwd = .ok here) (hfound : now.lookUp t.absolute = .ok found) :
    now.lookUpFrom here t.path = .ok found := by
  have hpath := h.text_path_ne
  rcases h.absolute_eq htree with habsolute | ⟨hrelative, habsolute⟩
  · rw [habsolute] at hfound
    exact FileTree.lookUpFrom_of_join hhere hpath hfound
  · rw [habsolute] at hfound
    have hdot : ((Path.mk ".").join t.path).text ≠ "" := by
      rw [Path.text_join hrelative]
      simp [hpath]
    exact FileTree.lookUpFrom_of_current hpath hrelative
      (FileTree.lookUpFrom_of_join hhere hdot hfound)

/-- A process is about a target: it works in the working directory, its last argument is the
spelling of the target, and from there the spelling leads to the file that the absolute path of the
target leads to. -/
structure IsHanded (now : FileTree) (cwd : Path) (t : Target) (command : Command) : Prop where
  cwd_eq : command.cwd = cwd
  last_eq : command.args.getLast? = some t.path.text
  same_file : ∃ found, now.lookUp t.absolute = .ok found ∧
    ∀ here, now.enter cwd = .ok here → now.lookUpFrom here t.path = .ok found

lemma Stands.isHanded (h : Stands tree cwd argument t place) (htree : tree.WellNamed)
    {env : Environment} {plan : Plan} {planned : PlannedLinter} {now : FileTree} {command : Command}
    (hcwd : plan.cwd = cwd) (hshows : host.Shows state now)
    (hcommand : command ∈ plan.process? host env planned t state) :
    IsHanded now cwd t command := by
  obtain rfl := Plan.eq_of_mem_process? hcommand
  refine ⟨hcwd, List.getLast?_concat .., ?_⟩
  cases hread : host.read state t.absolute with
  | error reason => simp [Plan.process?, hread] at hcommand
  | ok bytes =>
    rw [hshows.read_eq] at hread
    obtain ⟨found, hfound⟩ := FileTree.exists_of_read hread
    exact ⟨found, hfound, fun here hhere => h.lookUpFrom_eq htree hhere hfound⟩

/-- **The file that is watched is the file that is handed to the tool**: below the working directory
the spelling of each target has the steps of its absolute path, and whatever an invocation starts is
about the file that it looks at. -/
theorem watched_file_handed (hshows : host.Shows state tree) (htree : tree.WellNamed)
    (config : Config) (cwd : Path) (arguments : List Path) :
    ∀ t ∈ (discover host state config cwd arguments).1,
      (cwd.join t.path).steps = t.absolute.steps ∧
      ∀ env plan planned (s : Session σ) now, plan.cwd = cwd → host.Shows s.machine now →
        ∃ commands, (Plan.invoke host env plan planned t s).2.started = s.started ++ commands ∧
          ∀ command ∈ commands, IsHanded now cwd t command := by
  intro t ht
  obtain ⟨argument, -, ⟨place, hstands⟩, -⟩ := mem_discover hshows htree ht
  refine ⟨hstands.steps_join_path htree, fun env plan planned s now hcwd hnow => ?_⟩
  refine ⟨_, Plan.started_invoke, fun command hcommand => ?_⟩
  exact hstands.isHanded htree hcwd hnow (Option.mem_toList.mp hcommand)

/-- A walk from the working directory itself, whose name stands in the absolute path only. -/
theorem watched_file_handed_thicket :
    let t : Target := ⟨⟨"a.py"⟩, ⟨"/w/./a.py"⟩⟩
    let plan : Plan := ⟨⟨"/w"⟩, [], none, none⟩
    let planned : PlannedLinter := ⟨.ofSpec Linter.black.spec, ⟨"/bin/black"⟩⟩
    ∃ config, (Config.parse ⟨"pyproject.toml"⟩ "").2 = .ok config ∧
      t ∈ (discover Machine.host .thicket config ⟨"/w"⟩ [⟨"."⟩]).1 ∧
      ((Path.mk "/w").join t.path).steps = t.absolute.steps ∧
      FileTree.thicket.enter ⟨"/w"⟩ = .ok ["w"] ∧
      ∀ env, (plan.invoke Machine.host env planned t (.begin .thicket)).2.started =
          [plan.toolCommand env planned t] ∧
        IsHanded .thicket ⟨"/w"⟩ t (plan.toolCommand env planned t) := by
  intro t plan planned
  obtain ⟨config, hconfig, hscope⟩ : ∃ config,
      (Config.parse ⟨"pyproject.toml"⟩ "").2 = .ok config ∧
      ["a.py", "d/b.py", "d/e/c.py"].all config.isInScope = true :=
    exists_ok_of_check (by decide +kernel)
  have hcandidates : (candidates Machine.host .thicket ⟨"/w"⟩ ⟨"."⟩).1 =
      [t, ⟨⟨"d/b.py"⟩, ⟨"/w/./d/b.py"⟩⟩, ⟨⟨"d/e/c.py"⟩, ⟨"/w/./d/e/c.py"⟩⟩] := by
    have hpath : (Path.mk "/w").join (Path.mk ".").normalize = ⟨"/w/."⟩ := by decide +kernel
    have hkind : FileTree.thicket.kind? ⟨"/w/."⟩ = some .directory := by cbv
    have hfiles : (FileTree.thicket.list ⟨"/w/."⟩).files =
        [(["a.py"], none), (["d", "b.py"], none), (["d", "e", "c.py"], none)] := by cbv
    simp only [candidates, Machine.host, Machine.thicket, hpath, hkind, hfiles]
    decide +kernel
  have hmem : t ∈ (discover Machine.host .thicket config ⟨"/w"⟩ [⟨"."⟩]).1 := by
    rw [discover_fst, List.mem_mergeSort, mem_keepFirst_iff]
    refine ⟨[], [⟨⟨"d/b.py"⟩, ⟨"/w/./d/b.py"⟩⟩, ⟨⟨"d/e/c.py"⟩, ⟨"/w/./d/e/c.py"⟩⟩], ?_, by simp⟩
    simp_all [inScope, t]
  obtain ⟨hsteps, hhanded⟩ := watched_file_handed (Machine.shows .thicket)
    FileTree.wellNamed_thicket config ⟨"/w"⟩ [⟨"."⟩] t hmem
  refine ⟨config, hconfig, hmem, hsteps, by cbv, fun env => ?_⟩
  have hstarted : (plan.invoke Machine.host env planned t (.begin .thicket)).2.started =
      [plan.toolCommand env planned t] := by
    obtain ⟨bytes, hread, -⟩ : ∃ bytes,
        Machine.host.read .thicket t.absolute = .ok bytes ∧ bytes.isEmpty = true :=
      exists_ok_of_check (by cbv)
    have hprocess : plan.process? Machine.host env planned t (Session.begin .thicket).machine =
        some (plan.toolCommand env planned t) := by simp [Plan.process?, Session.begin, hread]
    rw [Plan.started_invoke, hprocess, Session.started_begin]
    rfl
  obtain ⟨commands, hcommands, hhanded⟩ :=
    hhanded env plan planned (.begin .thicket) .thicket rfl (Machine.shows _)
  have hcommand : commands = [plan.toolCommand env planned t] := by
    rw [hstarted] at hcommands
    exact hcommands.symm
  exact ⟨hstarted, hhanded _ (by simp [hcommand])⟩

end Discovery

end LintChain

import LintChain.Proofs.Gating
import LintChain.Proofs.Selection
import LintChain.Proofs.Transcript

/-!
What a tool may take for an option. The last argument of a process is a spelling without `.`
components. Where its argument leads on from the working directory by a `.`, the spelling begins
with the first name behind it, which may begin with a hyphen though no argument does.
-/

namespace LintChain

open Component (IsStep IsName)

/-- Tools take a text for an option that begins with a hyphen. -/
def Hyphenated (text : String) : Prop := text.toList.head? = some '-'

instance (text : String) : Decidable (Hyphenated text) :=
  inferInstanceAs (Decidable (text.toList.head? = some '-'))

namespace Path

variable {p q : Path} {c : Component} {cs : List Component}

/-- The path has nothing in front of its first step but the working directory itself. -/
def StartsHere (p : Path) : Prop := p.text = "" ∨ p.components.head? = some .current

instance (p : Path) : Decidable p.StartsHere :=
  inferInstanceAs (Decidable (p.text = "" ∨ p.components.head? = some .current))

/-! ### How a path begins -/

/-- What is put behind a path does not change how it begins. -/
lemma head?_extend (hne : p.text ≠ "") (hcs : ∀ c ∈ cs, IsStep c) :
    (p.extend cs).text.toList.head? = p.text.toList.head? := by
  induction cs generalizing p with
  | nil => rfl
  | cons c cs ih =>
    obtain ⟨hc, hcs⟩ := List.forall_mem_cons.mp hcs
    -- what is joined comes behind the lead, which begins as the path does
    have htext : (p.join ⟨c.text⟩).text = p.lead ++ c.text := text_join (isAbsolute_of_isStep hc)
    have hlead : p.lead.toList.head? = p.text.toList.head? ∧ p.lead ≠ "" := by
      unfold lead
      split
      · exact ⟨rfl, hne⟩
      · have hlist : p.text.toList ≠ [] := by simpa using hne
        simp [List.head?_append_of_ne_nil _ hlist]
    have hlist : p.lead.toList ≠ [] := by simpa using hlead.2
    rw [extend_cons, ih (by simp [htext, hlead.2]) hcs, htext, String.toList_append,
      List.head?_append_of_ne_nil _ hlist, hlead.1]

/-- Only the first of the steps of a path can be the root. -/
lemma isStep_of_steps (h : p.steps = c :: cs) : (c = .root ∨ IsStep c) ∧ ∀ d ∈ cs, IsStep d := by
  rw [steps_eq] at h
  cases habsolute : p.isAbsolute with
  | true =>
    rw [habsolute] at h
    obtain ⟨rfl, rfl⟩ := List.cons.inj h
    exact ⟨.inl rfl, fun d => isStep_of_mem_pieces⟩
  | false =>
    rw [habsolute, if_neg Bool.false_ne_true, List.nil_append] at h
    exact ⟨.inr (isStep_of_mem_pieces (h ▸ List.mem_cons_self)),
      fun d hd => isStep_of_mem_pieces (h ▸ List.mem_cons_of_mem c hd)⟩

lemma text_ne_of_steps (h : p.steps = c :: cs) : c.text ≠ "" := by
  obtain ⟨rfl | rfl | ⟨text, hname, rfl⟩, -⟩ := isStep_of_steps h
  · decide
  · decide
  · exact hname.ne_empty

/-- **A normal form begins as its first step does.** -/
lemma hyphenated_normalize_iff : Hyphenated p.normalize.text ↔
    ∃ c, p.steps.head? = some c ∧ Hyphenated c.text := by
  rw [normalize_eq]
  cases hsteps : p.steps with
  | nil => simp [ofComponents, Hyphenated]
  | cons c cs =>
    have hmade : ofComponents (c :: cs) = (Path.mk c.text).extend cs := by
      rw [ofComponents, extend_cons, empty_join]
    have hne := text_ne_of_steps hsteps
    have hhead : (ofComponents (c :: cs)).text.toList.head? = c.text.toList.head? := by
      rw [hmade]
      exact head?_extend (p := ⟨c.text⟩) hne (isStep_of_steps hsteps).2
    have htext : (ofComponents (c :: cs)).text ≠ "" := by
      intro hempty
      rw [hempty] at hhead
      exact hne (by simpa using hhead.symm)
    rw [if_neg htext]
    simp [Hyphenated, hhead]

/-- A path that does not start here has a first step, and begins as that does. -/
lemma exists_head_of_not_startsHere (h : ¬ p.StartsHere) :
    ∃ c, p.steps.head? = some c ∧ (Hyphenated c.text ↔ Hyphenated p.text) := by
  obtain ⟨hempty, hcurrent⟩ := not_or.mp h
  rcases htext : p.text.toList with _ | ⟨first, text⟩
  · exact absurd (String.toList_eq_nil_iff.mp htext) hempty
  by_cases hroot : first = '/'
  · have habsolute : p.isAbsolute = true := by simp [isAbsolute, htext, hroot]
    refine ⟨.root, by simp [steps_eq, habsolute], ?_⟩
    simp [Hyphenated, htext, hroot, Component.text]
  · obtain ⟨piece, rest, hfields⟩ := List.exists_cons_of_ne_nil (Text.fields_ne_nil '/' text)
    have hpieces : p.pieces = (first :: piece) :: rest := by
      rw [pieces, htext, Text.fields_cons_of_ne hroot hfields]
    have habsolute : p.isAbsolute = false := by simp [isAbsolute, htext, hroot]
    -- the first piece is neither blank nor a dot, and so it is the first step
    have hdot : first :: piece ≠ ['.'] := by
      intro hdot
      exact hcurrent (by simp [components, hpieces, hdot])
    by_cases hparent : first :: piece = ['.', '.']
    · have hfirst : Component.ofPiece? (first :: piece) = some .parent := by
        rw [hparent]
        rfl
      refine ⟨.parent, by simp [steps_eq, habsolute, hpieces, hfirst], ?_⟩
      simp [Hyphenated, htext, (List.cons.inj hparent).1, Component.text]
    · have hfirst : Component.ofPiece? (first :: piece) =
          some (.name (String.ofList (first :: piece))) := by
        simp [Component.ofPiece?, hdot, hparent]
      refine ⟨_, by simp only [steps_eq, habsolute, hpieces, List.filterMap_cons, hfirst]; rfl, ?_⟩
      simp [Hyphenated, htext, Component.text]

end Path

/-! ### How the spelling of a target begins -/

/-- Walks find files under names. -/
def Host.ListsNames {σ : Type} (host : Host σ) (state : σ) : Prop :=
  ∀ path names, (names, none) ∈ (host.list state path).files → ∀ name ∈ names, IsName name

/-- So do walks in a tree. -/
lemma Host.Shows.listsNames {σ : Type} {host : Host σ} {state : σ} {tree : FileTree}
    (h : host.Shows state tree) (htree : tree.WellNamed) : host.ListsNames state := by
  intro path names hmem
  rw [← (h.list path).files_perm.mem_iff, FileTree.list] at hmem
  cases hlook : tree.lookUp path with
  | error reason => simp [hlook, Listing.files] at hmem
  | ok found =>
    obtain ⟨place, node⟩ := found
    rw [hlook] at hmem
    cases node with
    | file bytes mode => simp_all [FileTree.listing, Listing.files]
    | directory mode entries =>
      exact (FileTree.mem_files_listing.mp hmem).2.isName
        (htree.get? (FileTree.lookUp_eq_ok_iff.mp hlook).2.2)
    | _ => cases hmem

namespace Discovery

variable {σ : Type} {host : Host σ} {state : σ} {config : Config} {cwd argument : Path}
  {arguments : List Path} {t : Target}

lemma exists_candidates_of_mem (h : t ∈ (discover host state config cwd arguments).1) :
    ∃ argument ∈ arguments, t ∈ (candidates host state cwd argument).1 := by
  rw [discover_fst, List.mem_mergeSort] at h
  obtain ⟨argument, hargument, hmem⟩ := List.mem_flatMap.mp (mem_of_mem_keepFirst h)
  exact ⟨argument, hargument, List.mem_of_mem_filter hmem⟩

/-- The spelling of a target is a normal form with the steps of its argument, and names behind
them. -/
lemma exists_normalize_of_mem (hnames : host.ListsNames state)
    (ht : t ∈ (candidates host state cwd argument).1) :
    ∃ q : Path, t.path = q.normalize ∧
      ∃ names : List String, t.path.steps = argument.steps ++ names.map .name := by
  unfold candidates at ht
  dsimp only at ht
  split at ht
  next => cases ht
  next => cases ht
  next =>
    obtain rfl := List.mem_singleton.mp ht
    exact ⟨argument, rfl, [], by simp⟩
  next =>
    obtain ⟨⟨names, _ | reason⟩, hentry, htarget⟩ := List.mem_filterMap.mp ht
    · have hnames' : ∀ name ∈ names, IsName name := hnames _ names hentry
      obtain rfl := Option.some.inj ((targetBelow?_eq hnames').symm.trans htarget)
      refine ⟨argument.normalize.join (.ofNames names), by rw [targetBelow], names, ?_⟩
      rw [targetBelow, Path.steps_normalize, Path.steps_join, Path.isAbsolute_ofNames hnames',
        if_neg Bool.false_ne_true, Path.steps_normalize, Path.steps_ofNames hnames']
    · cases htarget

/-- **Only a start in the working directory brings a hyphen to the front** that the argument does
not begin with. -/
lemma startsHere_of_hyphenated {names : List String}
    (hsteps : t.path.steps = argument.steps ++ names.map .name)
    (hhead : ∃ c, t.path.steps.head? = some c ∧ Hyphenated c.text)
    (hplain : ¬ Hyphenated argument.text) : argument.StartsHere := by
  by_contra hstart
  obtain ⟨c, hc, hiff⟩ := Path.exists_head_of_not_startsHere hstart
  obtain ⟨d, hd, hhyphen⟩ := hhead
  obtain ⟨cs, hcs⟩ : ∃ cs, argument.steps = c :: cs := List.head?_eq_some_iff.mp hc
  rw [hsteps, hcs] at hd
  obtain rfl := Option.some.inj hd
  exact hplain (hiff.mp hhyphen)

end Discovery

/-! ### A file whose name begins with a hyphen -/

namespace Shelf

/-- A shelf with such a file, and with a manifest that keeps one tool. -/
def hyphenated : Shelf :=
  [("pyproject.toml", "[tool.lint]\nisort.run=false\nblack.run=false\npyupgrade.run=false\n" ++
    "prospector.run=false\npyright.run=false\n"), ("-x.py", "x = 1\n")]

lemma listsNames_hyphenated : host.ListsNames hyphenated := by
  intro path names hmem
  have hfiles : (host.list hyphenated path).files =
      [(["pyproject.toml"], none), (["-x.py"], none)] := by
    simp [host, hyphenated, Listing.files, Listing.entryFiles]
  rw [hfiles] at hmem
  rcases List.mem_pair.mp hmem with hmem | hmem <;>
    obtain rfl := congrArg Prod.fst hmem <;> decide

end Shelf

/-! ### What a run hands over -/

namespace Course

variable {σ ω : Type} {m : Setting σ ω} {inv : Invocation} {cores : ℕ} {p : Progress σ ω}

/-- **When a file may be taken for an option.** Let no argument begin with a hyphen. A run is one of
its courses, and in each of them the arguments of every tool that is started are those of an enabled
linter and behind them, with nothing between, the spelling of a target. Its steps are those of the
argument that stands for the target, and names behind them. It begins with a hyphen exactly if that
argument starts in the working directory itself, by a `.` or as nothing at all, and the first of the
steps begins with one. -/
theorem hyphenated_last_iff (hnames : m.host.ListsNames p.session.machine)
    (hplain : ∀ a ∈ inv.paths, ¬ Hyphenated a.text) :
    (inv.jobs? ≠ some 0 → 0 < cores → ∃ acts, Moves m inv cores (start m inv p).1 (start m inv p).2
      acts (.ended (m.run inv p).1) (m.run inv p).2) ∧
    ∀ acts phase q, Moves m inv cores (start m inv p).1 (start m inv p).2 acts phase q →
      ∀ command, .tool command ∈ acts →
        ∃ config, m.configured inv p.session.machine = .ok config ∧
        ∃ r ∈ config.enabledLinters, ∃ argument ∈ inv.paths,
          ∃ target ∈ (Discovery.candidates m.host p.session.machine inv.cwd argument).1,
          ∃ names : List String, command.args = r.args ++ [target.path.text] ∧
            target.path.steps = argument.steps ++ names.map .name ∧
            (Hyphenated target.path.text ↔ argument.StartsHere ∧
              ∃ c, target.path.steps.head? = some c ∧ Hyphenated c.text) := by
  refine ⟨fun hjobs hcores => leads_run hjobs hcores p, fun acts phase q hmoves command hmem => ?_⟩
  obtain ⟨before, after, hacts⟩ := List.append_of_mem hmem
  obtain ⟨config, targets, hbusy, -, -, -, target, htarget, planned, hplanned, -, rfl⟩ :=
    hmoves.allowed hacts
  rw [← hbusy.selected] at htarget
  obtain ⟨argument, hargument, hcandidate⟩ := Discovery.exists_candidates_of_mem htarget
  obtain ⟨r, hr, names, hsteps⟩ := Discovery.exists_normalize_of_mem hnames hcandidate
  -- the spelling is a normal form, which begins as its first step does
  have hhead : Hyphenated target.path.text ↔
      ∃ c, target.path.steps.head? = some c ∧ Hyphenated c.text := by
    rw [hr, Path.hyphenated_normalize_iff, Path.steps_normalize]
  refine ⟨config, hbusy.configured, planned.linter, hplanned, argument, hargument, target,
    hcandidate, names, rfl, hsteps, ?_⟩
  rw [hhead, iff_and_self]
  exact fun h => Discovery.startsHere_of_hyphenated hsteps h (hplain argument hargument)

/-- By its absolute path the file is handed over as one. -/
theorem hyphenated_last_iff_absolute :
    let p : Progress Shelf String := ⟨.begin Shelf.hyphenated, ""⟩
    let inv : Invocation := ⟨Shelf.directory, [Shelf.directory], false, none, none⟩
    (Shelf.setting.run inv p).2.session.started.map (·.args) =
        [["--version"], ["/shelf/-x.py"]] ∧
      ∀ acts phase q, Moves Shelf.setting inv 4 (start Shelf.setting inv p).1
        (start Shelf.setting inv p).2 acts phase q → ∀ command, .tool command ∈ acts →
          ∃ text, command.args.getLast? = some text ∧ ¬ Hyphenated text := by
  intro p inv
  have hstarted : (Shelf.setting.run inv p).2.session.started.map (·.args) =
      [["--version"], ["/shelf/-x.py"]] :=
    Setting.started_of_single Writer.reliable_collect Writer.lawful_collect
      ⟨⟨"/shelf/-x.py"⟩, ⟨"/shelf/-x.py"⟩⟩ (exists_ok_of_check (by decide +kernel))
  refine ⟨hstarted, fun acts phase q hmoves command hmem => ?_⟩
  have hplain : ∀ a ∈ inv.paths, ¬ Hyphenated a.text := by decide +kernel
  have hnames : Shelf.setting.host.ListsNames p.session.machine := Shelf.listsNames_hyphenated
  obtain ⟨-, -, r, -, argument, hargument, target, -, names, hargs, -, hiff⟩ :=
    (hyphenated_last_iff hnames hplain).2 acts phase q hmoves command hmem
  have hlast : command.args.getLast? = some target.path.text := by
    rw [hargs]
    exact List.getLast?_concat ..
  obtain rfl := List.mem_singleton.mp hargument
  have hroot : ¬ Shelf.directory.StartsHere := by decide +kernel
  exact ⟨target.path.text, hlast, fun h => hroot (hiff.mp h).1⟩

/-- Found below the working directory it is handed over as if it were an option. -/
theorem hyphenated_last_iff_walk :
    let p : Progress Shelf String := ⟨.begin Shelf.hyphenated, ""⟩
    let inv : Invocation := ⟨Shelf.directory, [⟨"."⟩], false, none, none⟩
    (∀ a ∈ inv.paths, ¬ Hyphenated a.text) ∧
      (Shelf.setting.run inv p).2.session.started.map (·.args) = [["--version"], ["-x.py"]] := by
  intro p inv
  have hstarted : (Shelf.setting.run inv p).2.session.started.map (·.args) =
      [["--version"], ["-x.py"]] :=
    Setting.started_of_single Writer.reliable_collect Writer.lawful_collect
      ⟨⟨"-x.py"⟩, ⟨"/shelf/./-x.py"⟩⟩ (exists_ok_of_check (by decide +kernel))
  exact ⟨by decide +kernel, hstarted⟩

end Course

end LintChain

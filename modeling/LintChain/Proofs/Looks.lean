import LintChain.Proofs.Coverage

/-!
What a run looks at before it starts a process. The configuration and the files depend on what the
machine shows, and on nothing else.
-/

namespace LintChain

variable {σ ω : Type}

/-- No look tells two states of a machine apart. -/
structure Host.Alike (host : Host σ) (a b : σ) : Prop where
  kind?_eq : host.kind? a = host.kind? b
  list_eq : host.list a = host.list b
  canonical?_eq : host.canonical? a = host.canonical? b
  read_eq : host.read a = host.read b
  isExecutable_eq : host.isExecutable a = host.isExecutable b

namespace Host.Alike

variable {host : Host σ} {a b d : σ}

lemma refl (host : Host σ) (a : σ) : host.Alike a a := ⟨rfl, rfl, rfl, rfl, rfl⟩

lemma symm (h : host.Alike a b) : host.Alike b a :=
  ⟨h.kind?_eq.symm, h.list_eq.symm, h.canonical?_eq.symm, h.read_eq.symm, h.isExecutable_eq.symm⟩

lemma trans (h : host.Alike a b) (h' : host.Alike b d) : host.Alike a d :=
  ⟨h.kind?_eq.trans h'.kind?_eq, h.list_eq.trans h'.list_eq,
    h.canonical?_eq.trans h'.canonical?_eq, h.read_eq.trans h'.read_eq,
    h.isExecutable_eq.trans h'.isExecutable_eq⟩

end Host.Alike

/-! ### The configuration -/

lemma Config.resolve_congr {host : Host σ} {a b : σ} (h : host.Alike a b) (env : Environment)
    (start : Path) : resolve host a env start = resolve host b env start := by
  have hfile : host.isFile a = host.isFile b := by
    funext path
    rw [Host.isFile, Host.isFile, h.kind?_eq]
  have hmanifest : findManifest host a env start = findManifest host b env start := by
    rw [findManifest, findManifest, hfile]
  have hread : readManifest host a = readManifest host b := by
    funext manifest
    rw [readManifest, readManifest, h.read_eq]
  rw [resolve, resolve, hmanifest, hread]

lemma Setting.configured_congr {m : Setting σ ω} {a b : σ} (h : m.host.Alike a b)
    (inv : Invocation) : m.configured inv a = m.configured inv b := by
  rw [configured, configured, Config.resolve_congr h]

/-! ### The files -/

namespace Discovery

lemma keepFirst_congr {α κ : Type} [DecidableEq κ] {key key' : α → κ} {xs : List α}
    (h : ∀ x ∈ xs, key x = key' x) : keepFirst key xs = keepFirst key' xs := by
  induction xs with
  | nil => rfl
  | cons x xs ih =>
    obtain ⟨hx, hxs⟩ := List.forall_mem_cons.mp h
    rw [keepFirst, keepFirst, ih hxs, hx]
    refine congrArg (x :: ·) (List.filter_congr fun y hy => ?_)
    rw [hxs y (mem_of_mem_keepFirst hy)]

/-- What arguments stand for is the same on two states of a machine. -/
structure SameFiles (host : Host σ) (cwd : Path) (arguments : List Path) (a b : σ) : Prop where
  kind?_eq : ∀ argument ∈ arguments,
    host.kind? a (cwd.join argument.normalize) = host.kind? b (cwd.join argument.normalize)
  list_eq : ∀ argument ∈ arguments,
    host.list a (cwd.join argument.normalize) = host.list b (cwd.join argument.normalize)
  canonical?_eq : ∀ argument ∈ arguments, ∀ target ∈ (candidates host a cwd argument).1,
    host.canonical? a target.absolute = host.canonical? b target.absolute

variable {host : Host σ} {cwd : Path} {arguments : List Path} {a b : σ} {config config' : Config}

lemma SameFiles.of_alike (h : host.Alike a b) (cwd : Path) (arguments : List Path) :
    SameFiles host cwd arguments a b :=
  ⟨fun _ _ => congrFun h.kind?_eq _, fun _ _ => congrFun h.list_eq _,
    fun _ _ _ _ => congrFun h.canonical?_eq _⟩

/-- Two configurations with one scope find the same files where the arguments stand for the same. -/
lemma discover_congr (h : SameFiles host cwd arguments a b)
    (hscope : ∀ path, config.isInScope path = config'.isInScope path) :
    discover host a config cwd arguments = discover host b config' cwd arguments := by
  have hfound : arguments.map (candidates host a cwd) = arguments.map (candidates host b cwd) := by
    refine List.map_congr_left fun argument hargument => ?_
    simp only [candidates, h.kind?_eq argument hargument, h.list_eq argument hargument]
  have hkey : ∀ target ∈ (arguments.map (candidates host a cwd)).flatMap (·.1),
      key host a target = key host b target := by
    intro target htarget
    obtain ⟨_, hmap, hmem⟩ := List.mem_flatMap.mp htarget
    obtain ⟨argument, hargument, rfl⟩ := List.mem_map.mp hmap
    rw [key, key, h.canonical?_eq argument hargument target hmem]
  have hselect : select host a config ((arguments.map (candidates host a cwd)).flatMap (·.1)) =
      select host b config' ((arguments.map (candidates host a cwd)).flatMap (·.1)) := by
    simp only [select, hscope]
    rw [keepFirst_congr fun target htarget => hkey target (List.mem_of_mem_filter htarget)]
  exact congrArg₂ Prod.mk (hselect.trans (by rw [hfound])) (by rw [hfound])

/-- A single file needs no sorting. -/
lemma select_eq_singleton {found : List Target} {target : Target}
    (h : keepFirst (key host a) (found.filter fun t => config.isInScope t.path.text) = [target]) :
    select host a config found = [target] :=
  (congrArg (List.mergeSort · Target.le) h).trans (List.mergeSort_singleton _)

end Discovery

namespace Setting

variable {m : Setting σ ω} {inv : Invocation} {config : Config} {state : σ} {target : Target}

variable (m inv config state target) in
/-- All that the arguments stand for in scope is one file. -/
def FindsOnly : Prop :=
  keepFirst (Discovery.key m.host state)
    (((inv.paths.map (Discovery.candidates m.host state inv.cwd)).flatMap (·.1)).filter
      fun t => config.isInScope t.path.text) = [target]

instance : Decidable (m.FindsOnly inv config state target) :=
  inferInstanceAs (Decidable (_ = [target]))

lemma FindsOnly.selected_eq (h : m.FindsOnly inv config state target) :
    m.selected inv config state = [target] := Discovery.select_eq_singleton h

end Setting

end LintChain

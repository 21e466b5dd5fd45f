import LintChain.Config.Resolve
import LintChain.Machine
import LintChain.Proofs.Ascent
import LintChain.Proofs.Shelf

/-!
The nearest manifest. The directories that are searched are the start and all directories above it,
and the deepest one with a manifest decides. So directories without a manifest add nothing to what
holds in the directory that they are below.
-/

namespace LintChain

/-! ### Searching a list whose elements come down in an order -/

/-- In a list that comes down in an order the first element with a property is the greatest one. -/
lemma find?_eq_some_iff_greatest {α : Type} {le : α → α → Prop} {p : α → Bool} {l : List α}
    (hrefl : ∀ a, le a a) (hl : l.Pairwise fun a b => le b a ∧ ¬ le a b) {a : α} :
    l.find? p = some a ↔ a ∈ l ∧ p a ∧ ∀ b ∈ l, p b → le b a := by
  rw [List.find?_eq_some_iff_append]
  constructor
  · rintro ⟨ha, front, back, rfl, hfront⟩
    refine ⟨by simp, ha, fun b hb hp => ?_⟩
    obtain ⟨-, hback, -⟩ := List.pairwise_append.mp hl
    rw [List.mem_append, List.mem_cons] at hb
    rcases hb with hb | rfl | hb
    · have hnot := hfront b hb
      rw [hp] at hnot
      cases hnot
    · exact hrefl b
    · exact ((List.pairwise_cons.mp hback).1 b hb).1
  · rintro ⟨hmem, ha, hgreatest⟩
    obtain ⟨front, back, rfl⟩ := List.append_of_mem hmem
    refine ⟨ha, front, back, rfl, fun b hb => ?_⟩
    obtain ⟨-, -, hcross⟩ := List.pairwise_append.mp hl
    rw [Bool.not_eq_true', Bool.eq_false_iff]
    intro hp
    exact (hcross b hb a List.mem_cons_self).2 (hgreatest b (List.mem_append_left _ hb) hp)

/-! ### Two slashes in front of a path in a tree -/

namespace FileTree

variable {t : FileTree} {followLast : Bool} {links : Nat} {here : List String}
  {pieces : List (List Char)} {p : Path}

lemma locate_of_takes (h : Takes p) :
    t.locate followLast p = t.follow followLast maxLinks [] p.pieces := by
  obtain ⟨hempty, hzero, hlength⟩ := h
  unfold locate
  rw [if_neg (by simpa using hempty), hzero, if_neg Bool.false_ne_true,
    if_neg (Nat.not_lt.mpr hlength)]

/-- A second slash leads nowhere else. -/
lemma follow_twice : t.follow followLast links here ([] :: [] :: pieces) =
    t.follow followLast links here ([] :: pieces) := by
  rw [follow]
  split
  next hnone =>
    conv_rhs => rw [follow, hnone]
  next node hnode =>
    cases hdirectory : node.isDirectory with
    | true => simp
    | false =>
      conv_rhs => rw [follow, hnode]
      simp [hdirectory]

end FileTree

namespace Config

variable {σ : Type} {host : Host σ} {state : σ} {env : Environment} {start q : Path}

/-! ### The directories that are searched -/

lemma searchDirectories_eq (env : Environment) (h : start.isAbsolute) :
    searchDirectories env start =
      env.directory.absolute start :: Path.above start.root start.below :=
  Path.ancestors_absolute env.directory h

/-- **The start and all directories above it**, up to the root. -/
lemma map_components_searchDirectories (env : Environment) (h : start.isAbsolute) :
    (searchDirectories env start).map (·.components) = start.components.inits.tail.reverse := by
  have hsteps : ∀ c ∈ start.below, Component.IsStep c := fun _ => Path.isStep_of_mem_below
  have habove := Path.map_components_above start.isRoot_root hsteps
  rw [searchDirectories_eq env h, List.map_cons, Path.components_absolute env.directory h,
    habove, Path.components_of_isAbsolute h, Path.steps_of_isAbsolute h, List.inits_cons,
    List.tail_cons, ← List.map_reverse, Path.reverse_inits, List.map_cons]
  rfl

/-- The directories of a start in normal form, as they are spelled. -/
lemma searchDirectories_of_normal (env : Environment) (h : start.isAbsolute)
    (hnormal : start.normalize = start) : searchDirectories env start =
      start.components.inits.tail.reverse.map Path.ofComponents := by
  have hneat := Path.neat_normalize start
  rw [hnormal] at hneat
  rw [searchDirectories_eq env h, Path.absolute_of_neat env.directory hneat h,
    Path.root_of_neat hneat h, Path.above_root, Path.components_of_isAbsolute h,
    Path.steps_of_isAbsolute h, List.inits_cons, List.tail_cons, ← List.map_reverse, List.map_map,
    Path.reverse_inits, List.map_cons, List.tail_cons]
  rfl

lemma pairwise_searchDirectories (env : Environment) (h : start.isAbsolute) :
    (searchDirectories env start).Pairwise fun near far =>
      far.components <+: near.components ∧ ¬ near.components <+: far.components := by
  have hinits := Path.pairwise_reverse_inits start.components
  rw [← List.pairwise_map (R := fun xs ys => ys <+: xs ∧ ¬ xs <+: ys),
    map_components_searchDirectories env h]
  exact hinits.sublist (List.tail_sublist _).reverse

/-! ### What is found -/

/-- A directory has a manifest if there is a regular file of that name in it. -/
def HasManifest (host : Host σ) (state : σ) (directory : Path) : Prop :=
  host.kind? state (directory.join ⟨manifestName⟩) = some .file

instance (directory : Path) : Decidable (HasManifest host state directory) :=
  inferInstanceAs (Decidable (_ = _))

lemma findManifest_eq (host : Host σ) (state : σ) (env : Environment) (start : Path) :
    findManifest host state env start =
    match (searchDirectories env start).find? (HasManifest host state ·) with
    | some directory => .ok (directory.join ⟨manifestName⟩)
    | none => .error (.manifestNotFound (searchDirectories env start)) := by
  have hfind : ((searchDirectories env start).map (·.join ⟨manifestName⟩)).find?
      (host.isFile state) =
        ((searchDirectories env start).find? (HasManifest host state ·)).map
          (·.join ⟨manifestName⟩) := by
    rw [List.find?_map]
    rfl
  rw [findManifest, hfind]
  cases (searchDirectories env start).find? (HasManifest host state ·) <;> rfl

/-- **The deepest directory with a manifest decides.** -/
lemma findManifest_eq_ok_iff (h : start.isAbsolute) {manifest : Path} :
    findManifest host state env start = .ok manifest ↔
      ∃ nearest ∈ searchDirectories env start, HasManifest host state nearest ∧
        manifest = nearest.join ⟨manifestName⟩ ∧
        ∀ other ∈ searchDirectories env start, HasManifest host state other →
          other.components <+: nearest.components := by
  have hgreatest {d : Path} := find?_eq_some_iff_greatest (p := (HasManifest host state ·)) (a := d)
    (fun (a : Path) => List.prefix_refl a.components) (pairwise_searchDirectories env h)
  rw [findManifest_eq]
  constructor
  · intro hfound
    split at hfound
    next directory hdirectory =>
      obtain ⟨hmem, hhas, hnear⟩ := hgreatest.mp hdirectory
      refine ⟨directory, hmem, by simpa using hhas, (Except.ok.inj hfound).symm, ?_⟩
      simpa using hnear
    next => cases hfound
  · rintro ⟨nearest, hmem, hhas, rfl, hnear⟩
    rw [hgreatest.mpr ⟨hmem, by simpa using hhas, by simpa using hnear⟩]

lemma findManifest_eq_error_iff {e : ConfigError} :
    findManifest host state env start = .error e ↔
      e = .manifestNotFound (searchDirectories env start) ∧
        ∀ directory ∈ searchDirectories env start, ¬ HasManifest host state directory := by
  have hnone := List.find?_eq_none (l := searchDirectories env start)
    (p := (HasManifest host state ·))
  rw [findManifest_eq]
  cases hfind : (searchDirectories env start).find? (HasManifest host state ·) with
  | none =>
    have hall := hnone.mp hfind
    simp only [decide_eq_true_eq] at hall
    simp only [Except.error.injEq]
    exact ⟨fun he => ⟨he.symm, hall⟩, fun he => he.1.symm⟩
  | some directory =>
    refine ⟨nofun, fun he => ?_⟩
    have hhas := List.find?_some hfind
    exact absurd (by simpa using hhas) (he.2 directory (List.mem_of_find?_eq_some hfind))

/-! ### Below a directory -/

/-- Two spellings of one directory: what is below it is spelled the same, or it is the root. -/
def Spelled (directory directory' : Path) : Prop :=
  directory.join ⟨manifestName⟩ = directory'.join ⟨manifestName⟩ ∨
    directory'.text = "//" ∧ directory = ⟨"/"⟩

/-- On the way up from further below the start is spelled as on its own way up, unless it is the
root. -/
lemma spelled_of_above (env : Environment) (h : start.isAbsolute) :
    Spelled (if start.below = [] then ⟨"/"⟩ else start.root.extend start.below)
      (env.directory.absolute start) := by
  split_ifs with hempty
  · rcases start.root_cases with hone | htwo
    · exact .inl (by rw [Path.join_absolute _ h, hone, hempty, Path.extend_nil])
    · refine .inr ⟨?_, rfl⟩
      rw [Path.absolute_eq _ (Path.text_ne_of_isAbsolute h), Path.placed_of_isAbsolute _ h, htwo,
        hempty, Path.extend_nil]
      split <;> decide
  · exact .inl (Path.join_absolute _ h _).symm

/-- The directories searched from further below are those below the start, then the start, then
those above it. -/
lemma exists_nearer (env : Environment) (h : start.isAbsolute) (hq : q.isAbsolute = false) :
    ∃ nearer directory, searchDirectories env (start.join q) =
        nearer ++ directory :: Path.above start.root start.below ∧
      (∀ d ∈ nearer, ¬ d.components <+: start.components) ∧
      Spelled directory (env.directory.absolute start) := by
  have hjoin : (start.join q).isAbsolute := by rw [Path.isAbsolute_join, h, Bool.or_true]
  have hroot := Path.root_join h hq
  have hbelow := Path.below_join h hq
  have hsearched := searchDirectories_eq env hjoin
  rw [hroot, hbelow] at hsearched
  rcases eq_or_ne q.below [] with hnone | hne
  · rw [hnone, List.append_nil] at hsearched hbelow
    refine ⟨[], _, hsearched, by simp, .inl ?_⟩
    rw [Path.join_absolute _ hjoin, Path.join_absolute _ h, hroot, hbelow]
  · obtain ⟨nearer, habove, hnearer⟩ := Path.exists_above_append start.root start.below hne
    -- what has more steps than the start is neither the start nor above it
    have hlong {d : Path} {es : List Component} (hes : es ≠ [])
        (hd : d.components = .root :: (start.below ++ es)) :
        ¬ d.components <+: start.components := by
      rw [hd, Path.components_of_isAbsolute h, Path.steps_of_isAbsolute h, ← List.cons_append]
      exact Path.not_append_prefix _ hes
    refine ⟨_ :: nearer, _, by rw [hsearched, habove, List.cons_append], ?_,
      spelled_of_above env h⟩
    rintro d (_ | ⟨_, hd⟩)
    · exact hlong hne (by rw [Path.components_absolute _ hjoin, hbelow])
    · obtain ⟨es, hes, hbegins, rfl⟩ := hnearer d hd
      refine hlong hes (Path.components_extend_root start.isRoot_root ?_)
      refine List.forall_mem_append.mpr ⟨fun _ => Path.isStep_of_mem_below, fun c hc => ?_⟩
      exact Path.isStep_of_mem_below (List.IsPrefix.subset hbegins hc)

/-! ### What comes of it -/

/-- The manifest at the root is the same file if the root is spelled with two slashes. -/
structure OneRoot (host : Host σ) (state : σ) : Prop where
  kind?_eq : host.kind? state ((Path.mk "//").join ⟨manifestName⟩) =
    host.kind? state ((Path.mk "/").join ⟨manifestName⟩)
  read_eq : host.read state ((Path.mk "//").join ⟨manifestName⟩) =
    host.read state ((Path.mk "/").join ⟨manifestName⟩)

/-- It is if files are told by the components of their paths. -/
lemma oneRoot_shelf (shelf : Shelf) : OneRoot Shelf.host shelf := by
  have hcomponents : ((Path.mk "//").join ⟨manifestName⟩).components =
      ((Path.mk "/").join ⟨manifestName⟩).components := by decide +kernel
  constructor <;> simp only [Shelf.host, Shelf.nameOf?, hcomponents]

/-- It is if paths are followed piece by piece. -/
lemma oneRoot_machine (m : Machine) : OneRoot Machine.host m := by
  have htakes : ∀ root ∈ ["//", "/"], FileTree.Takes ((Path.mk root).join ⟨manifestName⟩) := by
    have hzero (text : String) : holdsZero text = decide ('\x00' ∈ text.toList) :=
      String.contains_char_eq
    intro root hroot
    refine ⟨?_, by rw [hzero]; revert root; decide +kernel, ?_⟩ <;> revert root <;> decide +kernel
  have hpieces : ((Path.mk "//").join ⟨manifestName⟩).pieces = [] :: [] :: [manifestName.toList] ∧
      ((Path.mk "/").join ⟨manifestName⟩).pieces = [] :: [manifestName.toList] := by
    decide +kernel
  have hlocate : m.tree.locate true ((Path.mk "//").join ⟨manifestName⟩) =
      m.tree.locate true ((Path.mk "/").join ⟨manifestName⟩) := by
    rw [FileTree.locate_of_takes (htakes "//" (by simp)), hpieces.1, FileTree.follow_twice,
      FileTree.locate_of_takes (htakes "/" (by simp)), hpieces.2]
  constructor <;> simp only [Machine.host, FileTree.kind?, FileTree.read, FileTree.lookUp, hlocate]

/-- Two spellings of the path of one manifest. -/
structure SameManifest (host : Host σ) (state : σ) (m m' : Path) : Prop where
  normalize_eq : m.normalize = m'.normalize
  root_eq : rootOf m = rootOf m'
  read_eq : host.read state m = host.read state m'

/-- The error without the directories that were searched, the path in normal form. -/
def gistOfError : ConfigError → ConfigError
  | .manifestNotFound _ => .manifestNotFound []
  | .unreadable manifest reason => .unreadable manifest.normalize reason
  | .notToml manifest => .notToml manifest.normalize
  | .malformed manifest cause => .malformed manifest.normalize cause
  | e => e

/-- What comes of resolving, without the directories that were searched, and with the path of the
manifest in normal form. -/
def gist (outcome : List Warning × Except ConfigError Config) :
    List Warning × Except ConfigError Config :=
  let named (config : Config) := { config with manifest := config.manifest.normalize }
  (outcome.1, (outcome.2.map named).mapError gistOfError)

@[simp] lemma gist_ok (warnings : List Warning) (config : Config) : gist (warnings, .ok config) =
    (warnings, .ok { config with manifest := config.manifest.normalize }) := rfl

@[simp] lemma gist_error (warnings : List Warning) (e : ConfigError) :
    gist (warnings, .error e) = (warnings, .error (gistOfError e)) := rfl

lemma gist_merge {m m' : Path} (hform : m.normalize = m'.normalize) (hroot : rootOf m = rootOf m')
    (section' : Section) (pattern : Regex) (exclude : List Glob) :
    gist (merge m section' pattern exclude) = gist (merge m' section' pattern exclude) := by
  unfold merge
  rcases applyOthers section'.others (catalog.map ResolvedLinter.ofSpec) with
    ⟨warnings, _ | linters⟩
  · rfl
  · cases readJobs section'.jobs? with
    | error e => rfl
    | ok jobs? =>
      cases readTimeout section'.timeout? with
      | error e => rfl
      | ok timeout? => simp [bind, Except.bind, pure, Except.pure, hform, hroot]

/-- A manifest means the same under each spelling of its path. -/
lemma gist_parse {m m' : Path} (hform : m.normalize = m'.normalize) (hroot : rootOf m = rootOf m')
    (contents : String) : gist (parse m contents) = gist (parse m' contents) := by
  unfold parse readSection
  cases Toml.parse? contents with
  | none => simp [gistOfError, hform]
  | some table =>
    cases hsection : Section.ofDocument table with
    | error cause => simp [gistOfError, hform, hsection, Except.mapError]
    | ok section' =>
      simp only [hsection, Except.mapError, ofSection]
      cases compileInclude (section'.include?.getD defaultInclude) with
      | error e => rfl
      | ok pattern =>
        dsimp only
        cases compileExclude (section'.exclude?.getD []) with
        | error e => rfl
        | ok exclude => exact gist_merge hform hroot section' pattern exclude

/-- What comes of a search that has found a manifest, or nothing. -/
lemma resolve_of_error {e : ConfigError} (h : findManifest host state env start = .error e) :
    resolve host state env start = ([], .error e) := by
  simp [resolve, h, bind, Except.bind]

lemma resolve_of_ok {manifest : Path} (h : findManifest host state env start = .ok manifest) :
    resolve host state env start = match readManifest host state manifest with
      | .error e => ([], .error e)
      | .ok contents => parse manifest contents := by
  unfold resolve
  simp only [h, bind, Except.bind]
  cases readManifest host state manifest <;> rfl

lemma gist_resolve_of_same {start' m m' : Path} (h : findManifest host state env start = .ok m)
    (h' : findManifest host state env start' = .ok m') (hsame : SameManifest host state m m') :
    gist (resolve host state env start) = gist (resolve host state env start') := by
  rw [resolve_of_ok h, resolve_of_ok h', readManifest, readManifest, hsame.read_eq]
  cases host.read state m' with
  | error reason => simp [gistOfError, hsame.normalize_eq]
  | ok bytes =>
    dsimp only
    cases Text.Utf8.decode? bytes with
    | none => simp [gistOfError, hsame.normalize_eq]
    | some text => exact gist_parse hsame.normalize_eq hsame.root_eq text

/-- The two spellings of the first directory are both searched with success, or neither, and what
is found is the same. -/
lemma same_of_spelled {directory directory' : Path} (hspelled : Spelled directory directory')
    (hroot : directory'.text = "//" → OneRoot host state) :
    (HasManifest host state directory ↔ HasManifest host state directory') ∧
      SameManifest host state (directory.join ⟨manifestName⟩)
        (directory'.join ⟨manifestName⟩) := by
  unfold HasManifest
  rcases hspelled with hjoin | ⟨htwo, rfl⟩
  · rw [hjoin]
    exact ⟨Iff.rfl, rfl, rfl, rfl⟩
  · obtain ⟨hkind, hread⟩ := hroot htwo
    obtain rfl : directory' = ⟨"//"⟩ := Path.ext_text htwo
    rw [hkind]
    exact ⟨Iff.rfl, by decide +kernel, by decide +kernel, hread.symm⟩

/-- **Directories without a manifest add nothing.** -/
lemma gist_resolve_join (h : start.isAbsolute) (hq : q.isAbsolute = false)
    (hroot : (env.directory.absolute start).text = "//" → OneRoot host state)
    (hchain : ∀ directory ∈ searchDirectories env (start.join q),
      HasManifest host state directory → directory.components <+: start.components) :
    gist (resolve host state env (start.join q)) = gist (resolve host state env start) := by
  obtain ⟨nearer, directory, hsearched, hnearer, hspelled⟩ := exists_nearer env h hq
  -- none of the directories below the start is found
  have hfind : (searchDirectories env (start.join q)).find? (HasManifest host state ·) =
      (directory :: Path.above start.root start.below).find? (HasManifest host state ·) := by
    rw [hsearched, List.find?_append, List.find?_eq_none.mpr, Option.none_or]
    intro d hd hhas
    have hmem : d ∈ searchDirectories env (start.join q) :=
      hsearched ▸ List.mem_append_left _ hd
    exact hnearer d hd (hchain d hmem (by simpa using hhas))
  have hdeep := findManifest_eq host state env (start.join q)
  have hstart := findManifest_eq host state env start
  obtain ⟨hhas, hsame⟩ := same_of_spelled hspelled hroot
  rw [hfind, List.find?_cons] at hdeep
  rw [searchDirectories_eq env h, List.find?_cons] at hstart
  simp only [hhas] at hdeep
  by_cases hfirst : HasManifest host state (env.directory.absolute start)
  · rw [decide_eq_true hfirst] at hdeep hstart
    exact gist_resolve_of_same hdeep hstart hsame
  · rw [decide_eq_false hfirst] at hdeep hstart
    dsimp only at hdeep hstart
    cases hrest : (Path.above start.root start.below).find? (HasManifest host state ·) with
    | none =>
      rw [hrest] at hdeep hstart
      rw [resolve_of_error hdeep, resolve_of_error hstart]
      rfl
    | some found =>
      rw [hrest] at hdeep hstart
      exact gist_resolve_of_same hdeep hstart ⟨rfl, rfl, rfl⟩

/-- **The nearest manifest decides.** The directories searched are the start and all directories
above it, the nearest first and the root last, in normal form if the start is. Found is the manifest
of the deepest one of them in which a regular file has that name, and nothing is found exactly if
there is none. So the same comes of resolving further below, if none of the directories between has
a manifest, but for the list of directories that were searched in vain. -/
theorem nearest_manifest (host : Host σ) (state : σ) (env : Environment) (start : Path)
    (h : start.isAbsolute) :
    (searchDirectories env start).map (·.components) = start.components.inits.tail.reverse ∧
    (start.normalize = start → searchDirectories env start =
      start.components.inits.tail.reverse.map Path.ofComponents) ∧
    (∀ manifest, findManifest host state env start = .ok manifest ↔
      ∃ nearest ∈ searchDirectories env start, HasManifest host state nearest ∧
        manifest = nearest.join ⟨manifestName⟩ ∧
        ∀ other ∈ searchDirectories env start, HasManifest host state other →
          other.components <+: nearest.components) ∧
    (∀ e, findManifest host state env start = .error e ↔
      e = .manifestNotFound (searchDirectories env start) ∧
        ∀ directory ∈ searchDirectories env start, ¬ HasManifest host state directory) ∧
    ∀ below : Path, below.isAbsolute = false →
      ((env.directory.absolute start).text = "//" → OneRoot host state) →
      (∀ directory ∈ searchDirectories env (start.join below), HasManifest host state directory →
        directory.components <+: start.components) →
      gist (resolve host state env (start.join below)) = gist (resolve host state env start) :=
  ⟨map_components_searchDirectories env h, searchDirectories_of_normal env h,
    fun _ => findManifest_eq_ok_iff h, fun _ => findManifest_eq_error_iff,
    fun _ => gist_resolve_join h⟩

/-- A manifest above the start, and the root, above which there is nothing and in which nothing is
found. -/
theorem nearest_manifest_shelf :
    let env : Environment := ⟨Shelf.directory, [], none⟩
    let shelf : Shelf := [("pyproject.toml", "[tool.lint]\njobs = 3\n"), ("a.py", "x\n")]
    let found (start : Path) := findManifest Shelf.host shelf env start
    let outcome (start : Path) := gist (resolve Shelf.host shelf env start)
    (Path.mk "/shelf").isAbsolute ∧ (Path.mk "a//./b").isAbsolute = false ∧
      searchDirectories env ⟨"/shelf/a//./b"⟩ =
        [⟨"/shelf/a/b"⟩, ⟨"/shelf/a"⟩, ⟨"/shelf"⟩, ⟨"/"⟩] ∧
      found ⟨"/shelf/a//./b"⟩ = .ok ⟨"/shelf/pyproject.toml"⟩ ∧
      outcome ⟨"/shelf/a//./b"⟩ = outcome ⟨"/shelf"⟩ ∧
      (env.directory.absolute ⟨"//"⟩).text = "//" ∧ OneRoot Shelf.host shelf ∧
      found ⟨"//"⟩ = .error (.manifestNotFound [⟨"//"⟩]) ∧
      outcome ⟨"//elsewhere"⟩ = outcome ⟨"//"⟩ := by
  intro env shelf found outcome
  have hjoin : (Path.mk "/shelf").join ⟨"a//./b"⟩ = ⟨"/shelf/a//./b"⟩ := by decide +kernel
  have hjoinRoot : (Path.mk "//").join ⟨"elsewhere"⟩ = ⟨"//elsewhere"⟩ := by decide +kernel
  have hsearched : searchDirectories env ⟨"/shelf/a//./b"⟩ =
      [⟨"/shelf/a/b"⟩, ⟨"/shelf/a"⟩, ⟨"/shelf"⟩, ⟨"/"⟩] := by decide +kernel
  have hsearchedRoot : searchDirectories env ⟨"//"⟩ = [⟨"//"⟩] := by decide +kernel
  have hroot : OneRoot Shelf.host shelf := oneRoot_shelf shelf
  obtain ⟨-, -, -, -, houtcome⟩ := nearest_manifest Shelf.host shelf env ⟨"/shelf"⟩ (by decide)
  obtain ⟨-, -, hfound, -⟩ :=
    nearest_manifest Shelf.host shelf env ⟨"/shelf/a//./b"⟩ (by decide)
  obtain ⟨-, -, -, hfails, houtcomeRoot⟩ :=
    nearest_manifest Shelf.host shelf env ⟨"//"⟩ (by decide)
  refine ⟨by decide, by decide, hsearched, ?_, ?_, by decide +kernel, hroot, ?_, ?_⟩
  · refine (hfound _).mpr
      ⟨⟨"/shelf"⟩, by simp [hsearched], by decide +kernel, by decide +kernel, ?_⟩
    rw [hsearched]
    decide +kernel
  · have hshorter : (env.directory.absolute ⟨"/shelf"⟩).text ≠ "//" := by decide +kernel
    rw [← hjoin]
    refine houtcome ⟨"a//./b"⟩ (by decide) (absurd · hshorter) ?_
    rw [hjoin, hsearched]
    decide +kernel
  · exact (hfails _).mpr ⟨by rw [hsearchedRoot], by rw [hsearchedRoot]; decide +kernel⟩
  · rw [← hjoinRoot]
    refine houtcomeRoot ⟨"elsewhere"⟩ (by decide) (fun _ => hroot) ?_
    rw [hjoinRoot]
    decide +kernel

end Config

end LintChain

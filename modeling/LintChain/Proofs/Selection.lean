import LintChain.Proofs.Precedence
import LintChain.Proofs.Shelf
import LintChain.Proofs.Spelling

/-!
Which files are selected. Every file that has a spelling in scope is a target once, under the first
such spelling, and the targets stand in the order of their paths. How a walk comes upon the entries
of a directory does not show, and how the arguments are arranged shows in the spellings only.
-/

namespace LintChain

/-- The argument that a warning says was skipped. -/
def Warning.skipped? : Warning → Option Path
  | .skippedArgument argument => some argument
  | _ => none

@[simp] lemma Warning.skipped?_skippedArgument (argument : Path) :
    (skippedArgument argument).skipped? = some argument := rfl

namespace Discovery

variable {σ : Type} {host : Host σ} {state : σ} {tree : FileTree} {config : Config} {cwd : Path}
  {argument argument' : Path} {arguments : List Path} {t u : Target} {place place' : List String}

/-! ### What is specified -/

/-- The target is a spelling of the file at a place. -/
def Denotes (tree : FileTree) (cwd : Path) (t : Target) (place : List String) : Prop :=
  ∃ argument, Stands tree cwd argument t place

/-- The target is a spelling in scope of the file at a place, and no argument before the one that
gives it has another. -/
def IsFirst (tree : FileTree) (config : Config) (cwd : Path) (arguments : List Path) (t : Target)
    (place : List String) : Prop :=
  ∃ before argument after, arguments = before ++ argument :: after ∧
    Stands tree cwd argument t place ∧ config.isInScope t.path.text ∧
    ∀ other ∈ before, ∀ u, Stands tree cwd other u place → ¬ config.isInScope u.path.text

/-- The file at a place has a spelling in scope. -/
def HasSpelling (tree : FileTree) (config : Config) (cwd : Path) (arguments : List Path)
    (place : List String) : Prop :=
  ∃ argument ∈ arguments, ∃ t, Stands tree cwd argument t place ∧ config.isInScope t.path.text

/-- The targets are the first spellings in scope of all files that have some, in the order of the
paths, and no two are one file. -/
structure Selects (tree : FileTree) (config : Config) (cwd : Path) (arguments : List Path)
    (targets : List Target) : Prop where
  mem_iff : ∀ t, t ∈ targets ↔ ∃ place, IsFirst tree config cwd arguments t place
  existsUnique : ∀ place, HasSpelling tree config cwd arguments place →
    ∃! t, t ∈ targets ∧ Denotes tree cwd t place
  ascending : targets.Pairwise fun t u => t.path.order u.path = .lt
  paths_ne : targets.Pairwise fun t u => t.path ≠ u.path
  places_ne : targets.Pairwise fun t u => ∀ place, Denotes tree cwd t place →
    ¬ Denotes tree cwd u place

/-- Whether an argument leads to anything. -/
def isThere (tree : FileTree) (cwd argument : Path) : Bool :=
  (tree.kind? (cwd.join argument.normalize)).isSome

/-- Arguments that lead nowhere are skipped with a warning each, in order, and all else is as if
they had not been given. -/
structure Skips (host : Host σ) (state : σ) (tree : FileTree) (config : Config) (cwd : Path)
    (arguments : List Path) : Prop where
  targets_eq : (discover host state config cwd arguments).1 =
    (discover host state config cwd (arguments.filter (isThere tree cwd))).1
  skipped_eq : (discover host state config cwd arguments).2.filterMap Warning.skipped? =
    arguments.filter (!isThere tree cwd ·)
  others_eq : (discover host state config cwd arguments).2.filter (·.skipped?.isNone) =
    (discover host state config cwd (arguments.filter (isThere tree cwd))).2

/-- Spellings of one file have one canonical path. That those with one canonical path are one file
is a theorem. -/
def HasCanonical (host : Host σ) (state : σ) (tree : FileTree) (cwd : Path)
    (arguments : List Path) : Prop :=
  ∀ argument ∈ arguments, ∀ argument' ∈ arguments, ∀ t u place,
    Stands tree cwd argument t place → Stands tree cwd argument' u place →
    key host state t = key host state u

/-! ### Arguments that are missing -/

lemma candidates_of_missing (hshows : host.Shows state tree)
    (h : isThere tree cwd argument = false) :
    candidates host state cwd argument = ([], [.skippedArgument argument]) := by
  have hnone : tree.kind? (cwd.join argument.normalize) = none := by simpa [isThere] using h
  simp [candidates, hshows.kind?_eq, hnone]

/-- Nothing that is there is skipped. -/
lemma skipped?_of_isThere (hshows : host.Shows state tree) (h : isThere tree cwd argument = true)
    {w : Warning} (hw : w ∈ (candidates host state cwd argument).2) : w.skipped? = none := by
  obtain ⟨kind, hkind⟩ := Option.isSome_iff_exists.mp h
  simp only [candidates, hshows.kind?_eq, hkind] at hw
  cases kind with
  | directory =>
    obtain ⟨⟨names, reason?⟩, -, hw⟩ := List.mem_filterMap.mp hw
    cases reason? with
    | none => cases hw
    | some reason =>
      obtain rfl := Option.some.inj hw
      rfl
  | _ => cases hw

lemma discover_snd : (discover host state config cwd arguments).2 =
    arguments.flatMap fun argument => (candidates host state cwd argument).2 :=
  List.flatMap_map ..

/-- What an argument stands for that is in scope. -/
def inScope (host : Host σ) (state : σ) (config : Config) (cwd argument : Path) : List Target :=
  (candidates host state cwd argument).1.filter fun t => config.isInScope t.path.text

lemma discover_fst : (discover host state config cwd arguments).1 =
    (keepFirst (key host state) (arguments.flatMap (inScope host state config cwd))).mergeSort
      Target.le := by
  rw [discover, select, List.flatMap_map, List.filter_flatMap]
  rfl

/-- **Missing arguments are skipped**, and change nothing. -/
lemma skips (hshows : host.Shows state tree) (config : Config) (cwd : Path)
    (arguments : List Path) : Skips host state tree config cwd arguments := by
  refine ⟨?_, ?_, ?_⟩
  · rw [discover_fst, discover_fst]
    congr 2
    induction arguments with
    | nil => rfl
    | cons argument arguments ih =>
      cases h : isThere tree cwd argument with
      | true => simp [h, ih]
      | false => simp [h, ih, inScope, candidates_of_missing hshows h]
  all_goals
    simp only [discover_snd]
    induction arguments with
    | nil => rfl
    | cons argument arguments ih =>
      cases h : isThere tree cwd argument with
      | true =>
        have hthere := fun w => skipped?_of_isThere hshows (w := w) h
        simp_all [List.filterMap_append]
      | false => simp [h, ih, candidates_of_missing hshows h]

/-! ### Spellings in scope -/

lemma mem_inScope (hshows : host.Shows state tree) (htree : tree.WellNamed) :
    t ∈ inScope host state config cwd argument ↔
      (∃ place, Stands tree cwd argument t place) ∧ config.isInScope t.path.text := by
  rw [inScope, List.mem_filter, mem_candidates_iff hshows htree]

lemma mem_discover (hshows : host.Shows state tree) (htree : tree.WellNamed)
    (h : t ∈ (discover host state config cwd arguments).1) :
    ∃ argument ∈ arguments, (∃ place, Stands tree cwd argument t place) ∧
      config.isInScope t.path.text := by
  rw [discover_fst, List.mem_mergeSort] at h
  obtain ⟨argument, hargument, hmem⟩ := List.mem_flatMap.mp (mem_of_mem_keepFirst h)
  exact ⟨argument, hargument, (mem_inScope hshows htree).mp hmem⟩

/-- What is spelled in scope is selected, under one spelling or another. -/
lemma exists_mem_discover (hshows : host.Shows state tree) (htree : tree.WellNamed)
    (h : HasSpelling tree config cwd arguments place) :
    ∃ t ∈ (discover host state config cwd arguments).1, Denotes tree cwd t place := by
  obtain ⟨argument, hargument, t, hstands, hscope⟩ := h
  have hmem : t ∈ arguments.flatMap (inScope host state config cwd) :=
    List.mem_flatMap.mpr
      ⟨argument, hargument, (mem_inScope hshows htree).mpr ⟨⟨place, hstands⟩, hscope⟩⟩
  obtain ⟨u, hu, hkey⟩ : ∃ u ∈ keepFirst (key host state) _, key host state u = key host state t :=
    exists_mem_keepFirst hmem
  obtain ⟨argument', -, hmem'⟩ := List.mem_flatMap.mp (mem_of_mem_keepFirst hu)
  obtain ⟨⟨place', hstands'⟩, -⟩ := (mem_inScope hshows htree).mp hmem'
  obtain rfl := hstands'.place_eq_of_key hstands htree hshows hkey
  exact ⟨u, by rwa [discover_fst, List.mem_mergeSort], argument', hstands'⟩

/-- One target denotes one file. -/
lemma Denotes.place_eq (h : Denotes tree cwd t place) (h' : Denotes tree cwd t place')
    (htree : tree.WellNamed) : place = place' := by
  obtain ⟨_, h⟩ := h
  obtain ⟨_, h'⟩ := h'
  exact h.place_eq_of_steps h' htree rfl

/-- **The files selected are those that have a spelling in scope.** -/
lemma exists_denotes_iff (hshows : host.Shows state tree) (htree : tree.WellNamed) :
    (∃ t ∈ (discover host state config cwd arguments).1, Denotes tree cwd t place) ↔
      HasSpelling tree config cwd arguments place := by
  refine ⟨fun ⟨t, ht, hdenotes⟩ => ?_, exists_mem_discover hshows htree⟩
  obtain ⟨argument, hargument, ⟨place', hstands⟩, hscope⟩ := mem_discover hshows htree ht
  obtain rfl := hdenotes.place_eq ⟨argument, hstands⟩ htree
  exact ⟨argument, hargument, t, hstands, hscope⟩

/-! ### The first spelling -/

/-- Where an element stands among all that is put together, it stands in the part that gives it. -/
lemma exists_of_flatMap_eq_append {α β : Type} {f : α → List β} {xs : List α} {front back : List β}
    {b : β} (h : xs.flatMap f = front ++ b :: back) :
    ∃ before x after front', xs = before ++ x :: after ∧ b ∈ f x ∧
      front = before.flatMap f ++ front' := by
  induction xs generalizing front with
  | nil => simp at h
  | cons x xs ih =>
    rw [List.flatMap_cons] at h
    rcases List.append_eq_append_iff.mp h with ⟨front', rfl, hxs⟩ | ⟨back', hx, hback⟩
    · obtain ⟨before, y, after, front'', rfl, hmem, rfl⟩ := ih hxs
      exact ⟨x :: before, y, after, front'', rfl, hmem, by simp⟩
    · cases back' with
      | nil =>
        have hxs : xs.flatMap f = [] ++ b :: back := by simpa using hback.symm
        obtain ⟨before, y, after, front', rfl, hmem, hnil⟩ := ih hxs
        refine ⟨x :: before, y, after, [], rfl, hmem, ?_⟩
        simp [hx, (List.append_eq_nil_iff.mp hnil.symm).1]
      | cons c back' =>
        obtain rfl := (List.cons.inj hback).1
        exact ⟨[], x, xs, front, rfl, by simp [hx], rfl⟩

section Canonical

variable (hshows : host.Shows state tree) (htree : tree.WellNamed)
  (hkey : HasCanonical host state tree cwd arguments)
include hshows htree hkey

lemma mem_discover_iff : t ∈ (discover host state config cwd arguments).1 ↔
    ∃ place, IsFirst tree config cwd arguments t place := by
  rw [discover_fst, List.mem_mergeSort, mem_keepFirst_iff]
  constructor
  · rintro ⟨front, back, hfound, hfront⟩
    obtain ⟨before, argument, after, front', rfl, hmem, rfl⟩ := exists_of_flatMap_eq_append hfound
    obtain ⟨⟨place, hstands⟩, hscope⟩ := (mem_inScope hshows htree).mp hmem
    refine ⟨place, before, argument, after, rfl, hstands, hscope,
      fun other hother u hu huscope => ?_⟩
    have hmem' : u ∈ before.flatMap (inScope host state config cwd) :=
      List.mem_flatMap.mpr ⟨other, hother, (mem_inScope hshows htree).mpr ⟨⟨place, hu⟩, huscope⟩⟩
    exact hfront u (List.mem_append_left _ hmem')
      (hkey other (by simp [hother]) argument (by simp) u t place hu hstands)
  · rintro ⟨place, before, argument, after, rfl, hstands, hscope, hfirst⟩
    have hmem : t ∈ inScope host state config cwd argument :=
      (mem_inScope hshows htree).mpr ⟨⟨place, hstands⟩, hscope⟩
    obtain ⟨front, back, hfound, hfront⟩ := List.eq_append_cons_of_mem hmem
    refine ⟨before.flatMap (inScope host state config cwd) ++ front,
      back ++ after.flatMap (inScope host state config cwd), by simp [hfound], fun u hu heq => ?_⟩
    rcases List.mem_append.mp hu with hu | hu
    · obtain ⟨other, hother, hu⟩ := List.mem_flatMap.mp hu
      obtain ⟨⟨place', hstands'⟩, huscope⟩ := (mem_inScope hshows htree).mp hu
      obtain rfl := hstands'.place_eq_of_key hstands htree hshows heq
      exact hfirst other hother u hstands' huscope
    · -- one argument gives one spelling
      have hu' : u ∈ inScope host state config cwd argument := by simp [hfound, hu]
      obtain ⟨⟨place', hstands'⟩, -⟩ := (mem_inScope hshows htree).mp hu'
      obtain rfl := hstands'.place_eq_of_key hstands htree hshows heq
      obtain rfl := hstands'.target_eq hstands
      exact hfront hu

/-- Targets that denote one file are one. -/
lemma eq_of_denotes (ht : t ∈ (discover host state config cwd arguments).1)
    (hu : u ∈ (discover host state config cwd arguments).1) (htplace : Denotes tree cwd t place)
    (huplace : Denotes tree cwd u place) : t = u := by
  obtain ⟨argument, hargument, ⟨_, hstands⟩, -⟩ := mem_discover hshows htree ht
  obtain ⟨argument', hargument', ⟨_, hstands'⟩, -⟩ := mem_discover hshows htree hu
  obtain rfl := htplace.place_eq ⟨argument, hstands⟩ htree
  obtain rfl := huplace.place_eq ⟨argument', hstands'⟩ htree
  rw [discover_fst, List.mem_mergeSort] at ht hu
  exact eq_of_mem_keepFirst ht hu
    (hkey argument hargument argument' hargument' t u place hstands hstands')

lemma pairwise_discover (config : Config) :
    (discover host state config cwd arguments).1.Pairwise fun t u =>
      t.path.order u.path = .lt ∧
        ∀ place, Denotes tree cwd t place → ¬ Denotes tree cwd u place := by
  have hnodup : (discover host state config cwd arguments).1.Nodup := by
    rw [discover_fst]
    exact (List.mergeSort_perm _ _).nodup_iff.mpr nodup_keepFirst
  have hle : (discover host state config cwd arguments).1.Pairwise (Target.le · ·) := by
    rw [discover_fst]
    exact List.pairwise_mergeSort Target.le_trans Target.le_total _
  refine (hle.and hnodup).imp_of_mem fun {t u} ht hu ⟨hle, hne⟩ => ?_
  have hplace : ∀ place, Denotes tree cwd t place → ¬ Denotes tree cwd u place :=
    fun place htplace huplace => hne (eq_of_denotes hshows htree hkey ht hu htplace huplace)
  refine ⟨Target.path_lt_of_le hle fun heq => ?_, hplace⟩
  obtain ⟨argument, -, ⟨place, hstands⟩, -⟩ := mem_discover hshows htree ht
  obtain ⟨argument', -, ⟨place', hstands'⟩, -⟩ := mem_discover hshows htree hu
  have hsteps : t.path.steps = u.path.steps := by
    rw [Path.steps, Path.order_eq_eq_iff.mp heq, Path.steps]
  obtain rfl := hstands.place_eq_of_path hstands' htree hsteps
  exact hplace place ⟨argument, hstands⟩ ⟨argument', hstands'⟩

/-- **Discovery selects what it is specified to select**: of all files that the arguments stand for,
with links and directories in directories, each that has a spelling in scope is a target once, under
the first such spelling, and the targets are in the order of their paths. Missing arguments are
skipped. -/
theorem selects_first (config : Config) :
    Selects tree config cwd arguments (discover host state config cwd arguments).1 ∧
      Skips host state tree config cwd arguments := by
  have hpairs := pairwise_discover hshows htree hkey config
  refine ⟨⟨fun t => mem_discover_iff hshows htree hkey, fun place h => ?_,
    hpairs.imp fun h => h.1, hpairs.imp fun h heq => ?_, hpairs.imp fun h => h.2⟩,
    skips hshows config cwd arguments⟩
  · obtain ⟨t, ht, hdenotes⟩ := exists_mem_discover hshows htree h
    exact ⟨t, ⟨ht, hdenotes⟩, fun u ⟨hu, hu'⟩ =>
      eq_of_denotes hshows htree hkey hu ht hu' hdenotes⟩
  · have hself := Path.order_eq_eq_iff.mpr (congrArg Path.components heq)
    simp [h.1] at hself

end Canonical

/-- Where all spellings can be followed, those of one file have one canonical path. -/
lemma hasCanonical_of_isSome (hshows : host.Shows state tree) (htree : tree.WellNamed)
    (h : ∀ argument ∈ arguments, ∀ t ∈ (candidates host state cwd argument).1,
      (tree.canonical? t.absolute).isSome) : HasCanonical host state tree cwd arguments :=
  fun argument hargument argument' hargument' t u place hstands hstands' =>
    hstands.key_eq_of_place hstands' htree hshows
      (h argument hargument t ((mem_candidates_iff hshows htree).mpr ⟨place, hstands⟩))
      (h argument' hargument' u ((mem_candidates_iff hshows htree).mpr ⟨place, hstands'⟩))

/-- One file has two spellings in scope, another one only behind a link, and an argument is
missing. -/
theorem selects_first_thicket :
    let arguments : List Path := [⟨"a.py"⟩, ⟨"d"⟩, ⟨"gone"⟩, ⟨"es"⟩]
    let targets : List Target := [⟨⟨"a.py"⟩, ⟨"/w/a.py"⟩⟩, ⟨⟨"d/b.py"⟩, ⟨"/w/d/b.py"⟩⟩,
      ⟨⟨"es/e/c.py"⟩, ⟨"/w/es/e/c.py"⟩⟩]
    ∃ config, (Config.parse ⟨"pyproject.toml"⟩ "[tool.lint]\nexclude = [\"d/e/*\"]\n").2 =
        .ok config ∧
      (discover Machine.host .thicket config ⟨"/w"⟩ arguments).1 = targets ∧
      Selects .thicket config ⟨"/w"⟩ arguments targets ∧
      Skips Machine.host .thicket .thicket config ⟨"/w"⟩ arguments := by
  intro arguments targets
  obtain ⟨config, hconfig, hscope⟩ : ∃ config,
      (Config.parse ⟨"pyproject.toml"⟩ "[tool.lint]\nexclude = [\"d/e/*\"]\n").2 = .ok config ∧
      (["a.py", "d/b.py", "d/e/c.py", "es/b.py", "es/e/c.py"].map config.isInScope =
        [true, true, false, true, true] : Bool) := exists_ok_of_check (by decide +kernel)
  obtain ⟨hfile, hdirectory, hlink, hgone⟩ := candidates_thicket
  have hcanonical : HasCanonical Machine.host .thicket .thicket ⟨"/w"⟩ arguments := by
    refine hasCanonical_of_isSome (Machine.shows _) FileTree.wellNamed_thicket ?_
    simp [arguments, hfile, hdirectory, hlink, hgone, FileTree.canonical?_thicket]
  obtain ⟨hselects, hskips⟩ := selects_first (Machine.shows _) FileTree.wellNamed_thicket hcanonical
    config
  have htargets : (discover Machine.host .thicket config ⟨"/w"⟩ arguments).1 = targets := by
    obtain ⟨ha, hb, hc, hb', hc'⟩ := FileTree.canonical?_thicket
    simp only [List.map_cons, List.map_nil, decide_eq_true_eq, List.cons.injEq] at hscope
    have hfound : arguments.flatMap (inScope Machine.host .thicket config ⟨"/w"⟩) =
        [⟨⟨"a.py"⟩, ⟨"/w/a.py"⟩⟩, ⟨⟨"d/b.py"⟩, ⟨"/w/d/b.py"⟩⟩, ⟨⟨"es/b.py"⟩, ⟨"/w/es/b.py"⟩⟩,
          ⟨⟨"es/e/c.py"⟩, ⟨"/w/es/e/c.py"⟩⟩] := by
      simp [arguments, inScope, hfile, hdirectory, hlink, hgone, hscope]
    have hkeys : ["a.py", "d/b.py", "es/b.py", "es/e/c.py"].map
          (fun text => key Machine.host .thicket ⟨⟨text⟩, ⟨"/w/" ++ text⟩⟩) =
        [["a.py"], ["d", "b.py"], ["d", "b.py"], ["d", "e", "c.py"]].map
          fun names => .root :: .name "w" :: names.map .name := by
      simp only [key, Machine.host, Machine.thicket, List.map_cons, List.map_nil,
        String.reduceAppend, ha, hb, hb', hc']
      decide +kernel
    simp only [List.map_cons, List.map_nil, List.cons.injEq, String.reduceAppend] at hkeys
    have hkept : keepFirst (key Machine.host .thicket) [⟨⟨"a.py"⟩, ⟨"/w/a.py"⟩⟩,
          ⟨⟨"d/b.py"⟩, ⟨"/w/d/b.py"⟩⟩, ⟨⟨"es/b.py"⟩, ⟨"/w/es/b.py"⟩⟩,
          ⟨⟨"es/e/c.py"⟩, ⟨"/w/es/e/c.py"⟩⟩] = targets := by
      simp [keepFirst, hkeys, targets]
    rw [discover_fst, hfound, hkept]
    exact List.mergeSort_of_pairwise (by decide +kernel)
  exact ⟨config, hconfig, htargets, htargets ▸ hselects, hskips⟩

/-! ### Arrangement -/

lemma key_congr {σ' : Type} {host' : Host σ'} {state' : σ'} (h : host.Shows state tree)
    (h' : host'.Shows state' tree) : key host state = key host' state' := by
  funext t
  rw [key_eq h, key_eq h']

end Discovery

/-- The entries of a directory from the end. -/
def Listing.backward : Listing → Listing
  | directory entries => directory entries.reverse
  | listing => listing

/-- A machine whose walks come upon the last entry of a directory first. -/
def Machine.backward : Host Machine :=
  { Machine.host with list := fun m path => (m.tree.list path).backward }

lemma Machine.shows_backward (m : Machine) : backward.Shows m m.tree := by
  refine ⟨rfl, rfl, rfl, fun path => ?_⟩
  show Listing.Reordered _ (m.tree.list path).backward
  cases m.tree.list path with
  | directory entries => exact .perm entries.reverse_perm.symm
  | _ => exact .refl _

namespace Discovery

/-- **No arrangement shows.** However the walks come upon the entries of each directory, the targets
are the same; and arguments in another order, or given again, select the same files. -/
theorem arrangement_irrelevant {σ' : Type} {host' : Host σ'} {state' : σ'}
    (h : host.Shows state tree) (h' : host'.Shows state' tree) (htree : tree.WellNamed)
    (config : Config) (cwd : Path) :
    (∀ arguments, (discover host state config cwd arguments).1 =
      (discover host' state' config cwd arguments).1) ∧
    ∀ arguments arguments' : List Path, (∀ a, a ∈ arguments ↔ a ∈ arguments') → ∀ place,
      (∃ t ∈ (discover host state config cwd arguments).1, Denotes tree cwd t place) ↔
        ∃ t ∈ (discover host' state' config cwd arguments').1, Denotes tree cwd t place := by
  constructor
  · intro arguments
    rw [discover_fst, discover_fst, ← key_congr h h']
    -- in the block of one argument no two targets are one file
    have hplaces : ∀ argument, ∀ t ∈ inScope host state config cwd argument,
        ∀ u ∈ inScope host state config cwd argument,
        (∀ place place', Stands tree cwd argument t place → Stands tree cwd argument u place' →
          place = place') → t = u := by
      intro argument t ht u hu hplace
      obtain ⟨⟨place, hstands⟩, -⟩ := (mem_inScope h htree).mp ht
      obtain ⟨⟨place', hstands'⟩, -⟩ := (mem_inScope h htree).mp hu
      obtain rfl := hplace place place' hstands hstands'
      exact hstands.target_eq hstands'
    refine mergeSort_keepFirst_flatMap Target.le_trans Target.le_total ?_ ?_ ?_
    · intro argument _ t
      rw [mem_inScope h htree, mem_inScope h' htree]
    · intro argument _ t ht u hu hkey
      exact hplaces argument t ht u hu fun _ _ hstands hstands' =>
        hstands.place_eq_of_key hstands' htree h hkey
    · intro argument _ t ht u hu hle hle'
      refine hplaces argument t ht u hu fun _ _ hstands hstands' =>
        hstands.place_eq_of_steps hstands' htree ?_
      rw [Path.steps, Target.components_eq_of_le hle hle', Path.steps]
  · intro arguments arguments' hmem place
    rw [exists_denotes_iff h htree, exists_denotes_iff h' htree]
    simp only [HasSpelling, hmem]

/-- One machine comes upon the entries of a directory in the order of the other one's, or from the
end. -/
theorem arrangement_irrelevant_thicket :
    ∃ config, (Config.parse ⟨"pyproject.toml"⟩ "").2 = .ok config ∧
      (Machine.backward.list .thicket ⟨"/w/d"⟩).files ≠
        (Machine.host.list .thicket ⟨"/w/d"⟩).files ∧
      (discover Machine.host .thicket config ⟨"/w"⟩ [⟨"d"⟩]).1 =
        (discover Machine.backward .thicket config ⟨"/w"⟩ [⟨"d"⟩]).1 ∧
      ∀ place,
        (∃ t ∈ (discover Machine.host .thicket config ⟨"/w"⟩ [⟨"d"⟩, ⟨"es"⟩]).1,
          Denotes .thicket ⟨"/w"⟩ t place) ↔
        ∃ t ∈ (discover Machine.backward .thicket config ⟨"/w"⟩ [⟨"es"⟩, ⟨"d"⟩, ⟨"es"⟩]).1,
          Denotes .thicket ⟨"/w"⟩ t place := by
  obtain ⟨config, hconfig, -⟩ : ∃ config,
      (Config.parse ⟨"pyproject.toml"⟩ "").2 = .ok config ∧ config.jobs?.isNone :=
    exists_ok_of_check (by decide +kernel)
  obtain ⟨hlist, hselected⟩ := arrangement_irrelevant (Machine.shows .thicket)
    (Machine.shows_backward .thicket) FileTree.wellNamed_thicket config ⟨"/w"⟩
  have hfiles : (FileTree.thicket.list ⟨"/w/d"⟩).files = [(["b.py"], none), (["e", "c.py"], none)] ∧
      (FileTree.thicket.list ⟨"/w/d"⟩).backward.files =
        [(["e", "c.py"], none), (["b.py"], none)] := by
    cbv
  refine ⟨config, hconfig, ?_, hlist _, hselected _ _ fun a => by simp; tauto⟩
  simp [Machine.backward, Machine.host, Machine.thicket, hfiles]

end Discovery

end LintChain

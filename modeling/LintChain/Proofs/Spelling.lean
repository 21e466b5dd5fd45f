import LintChain.Machine
import LintChain.Plan
import LintChain.Proofs.Resolution
import Mathlib

/-!
The files that an argument stands for: itself, or all that a walk finds below it. Each has a place
in the tree, and a spelling, under which it is handed to the tools. One argument gives one spelling
of a place, one spelling stands for one place, and no canonical path stands for two.
-/

namespace LintChain

open Component (IsName)

/-! ### Walks -/

namespace FileTree

/-- The entries of every directory have names, and different ones. -/
inductive WellNamed : FileTree → Prop
  | file {bytes : ByteArray} {mode : Nat} : WellNamed (file bytes mode)
  | link {target : String} : WellNamed (link target)
  | device {zeros : Bool} : WellNamed (device zeros)
  | directory {mode : Nat} {entries : List (String × FileTree)}
      (hnodup : (entries.map (·.1)).Nodup) (hnames : ∀ entry ∈ entries, IsName entry.1)
      (hentries : ∀ entry ∈ entries, WellNamed entry.2) : WellNamed (directory mode entries)

/-- The regular files that are found below a directory, by their names from there. No link is
followed; a directory must be readable, and one below it is out of reach unless it can be searched
too. -/
inductive Finds : FileTree → List String → Prop
  | entry {mode mode' : Nat} {entries : List (String × FileTree)} {name : String}
      {bytes : ByteArray} (hread : allows mode 4) (hmem : (name, file bytes mode') ∈ entries) :
      Finds (directory mode entries) [name]
  | deeper {mode mode' : Nat} {entries entries' : List (String × FileTree)} {name : String}
      {names : List String} (hread : allows mode 4) (hsearch : allows mode 1)
      (hmem : (name, directory mode' entries') ∈ entries)
      (hfinds : Finds (directory mode' entries') names) :
      Finds (directory mode entries) (name :: names)

variable {t dir : FileTree} {names : List String}

lemma child?_of_mem {entries : List (String × FileTree)} (hnodup : (entries.map (·.1)).Nodup)
    {mode : Nat} {name : String} {node : FileTree} (hmem : (name, node) ∈ entries) :
    (directory mode entries).child? name = some node := by
  have hfind : entries.find? (fun entry => entry.1 = name) = some (name, node) := by
    induction entries with
    | nil => cases hmem
    | cons entry entries ih =>
      rw [List.map_cons, List.nodup_cons] at hnodup
      rcases List.mem_cons.mp hmem with rfl | hmem
      · simp
      · have hne : entry.1 ≠ name := fun heq => hnodup.1 (heq ▸ List.mem_map_of_mem hmem)
        rw [List.find?_cons_of_neg (by simpa using hne), ih hnodup.2 hmem]
  simp [child?, hfind]

/-- What a walk finds stands where its names lead to. -/
lemma Finds.get? (h : dir.Finds names) (hdir : dir.WellNamed) :
    ∃ bytes mode, dir.get? names = some (file bytes mode) := by
  induction h with
  | entry _ hmem =>
    cases hdir with
    | directory hnodup =>
      exact ⟨_, _, by rw [FileTree.get?, child?_of_mem hnodup hmem]; rfl⟩
  | deeper _ _ hmem _ ih =>
    cases hdir with
    | directory hnodup _ hentries =>
      obtain ⟨bytes, mode, hget⟩ := ih (hentries _ hmem)
      exact ⟨bytes, mode, by simp [FileTree.get?, child?_of_mem hnodup hmem, hget]⟩

lemma Finds.isName (h : dir.Finds names) (hdir : dir.WellNamed) : ∀ n ∈ names, IsName n := by
  induction h with
  | entry _ hmem =>
    cases hdir with
    | directory _ hnames => simpa using hnames _ hmem
  | deeper _ _ hmem _ ih =>
    cases hdir with
    | directory _ hnames hentries =>
      exact List.forall_mem_cons.mpr ⟨hnames _ hmem, ih (hentries _ hmem)⟩

lemma Finds.ne_nil (h : dir.Finds names) : names ≠ [] := by
  cases h <;> exact List.cons_ne_nil _ _

lemma WellNamed.get? {node : FileTree} (h : t.WellNamed) (hnode : t.get? names = some node) :
    node.WellNamed := by
  induction names generalizing t with
  | nil =>
    obtain rfl := Option.some.inj hnode
    exact h
  | cons name names ih =>
    obtain ⟨child, hchild, hrest⟩ := Option.bind_eq_some_iff.mp hnode
    refine ih ?_ hrest
    cases h with
    | directory _ _ hentries =>
      obtain ⟨entry, hfind, rfl⟩ := Option.map_eq_some_iff.mp hchild
      exact hentries entry (List.mem_of_find?_eq_some hfind)
    | _ => cases hchild

/-! ### Listings -/

lemma listings_eq_map (reachable : Bool) (entries : List (String × FileTree)) :
    listings reachable entries =
      entries.map fun entry => (entry.1, entry.2.listing reachable) := by
  induction entries with
  | nil => rfl
  | cons entry entries ih => rw [listings, ih, List.map_cons]

end FileTree

namespace Listing

lemma entryFiles_eq_flatMap (entries : List (String × Listing)) :
    entryFiles entries =
      entries.flatMap fun entry =>
        entry.2.files.map fun found => (entry.1 :: found.1, found.2) := by
  induction entries with
  | nil => rfl
  | cons entry entries ih => rw [entryFiles, ih, List.flatMap_cons]

/-- A listing whose directories have their entries in another order. -/
inductive Reordered : Listing → Listing → Prop
  | refl (listing : Listing) : Reordered listing listing
  | trans {a b c : Listing} (hab : Reordered a b) (hbc : Reordered b c) : Reordered a c
  | perm {entries entries' : List (String × Listing)} (h : entries.Perm entries') :
      Reordered (directory entries) (directory entries')
  | entry {before after : List (String × Listing)} {name : String} {a b : Listing}
      (h : Reordered a b) :
      Reordered (directory (before ++ (name, a) :: after))
        (directory (before ++ (name, b) :: after))

/-- The same is found in any order. -/
lemma Reordered.files_perm {a b : Listing} (h : Reordered a b) : a.files.Perm b.files := by
  induction h with
  | refl => exact .refl _
  | trans _ _ ihab ihbc => exact ihab.trans ihbc
  | perm h =>
    simp only [files, entryFiles_eq_flatMap]
    exact h.flatMap_right _
  | entry _ ih =>
    simp only [files, entryFiles_eq_flatMap, List.flatMap_append, List.flatMap_cons]
    exact ((ih.map _).append_right _).append_left _

end Listing

namespace FileTree

variable {mode : Nat} {entries : List (String × FileTree)} {reachable : Bool}
  {names : List String}

lemma mem_files_directory :
    (names, none) ∈ (Listing.directory (listings reachable entries)).files ↔
      ∃ name node rest, names = name :: rest ∧ (name, node) ∈ entries ∧
        (rest, none) ∈ (node.listing reachable).files := by
  simp only [Listing.files, Listing.entryFiles_eq_flatMap, listings_eq_map, List.flatMap_map,
    List.mem_flatMap, List.mem_map, Prod.mk.injEq, Prod.exists]
  constructor
  · rintro ⟨name, node, hmem, rest, _, hrest, rfl, rfl⟩
    exact ⟨name, node, rest, rfl, hmem, hrest⟩
  · rintro ⟨name, node, rest, rfl, hmem, hrest⟩
    exact ⟨name, node, hmem, rest, none, hrest, rfl, rfl⟩

/-- **A listing has what a walk finds.** -/
lemma mem_files_listing : (names, none) ∈ ((directory mode entries).listing reachable).files ↔
    reachable ∧ (directory mode entries).Finds names := by
  induction names generalizing mode entries reachable with
  | nil =>
    have hnone : ¬ (directory mode entries).Finds [] := fun h => h.ne_nil rfl
    rw [listing]
    split
    · simp [mem_files_directory, hnone]
    · simp [Listing.files, hnone]
  | cons name rest ih =>
    rw [listing]
    split
    next h =>
      obtain ⟨hreachable, hread⟩ := Bool.and_eq_true_iff.mp h
      rw [mem_files_directory]
      constructor
      · rintro ⟨name, node, rest, hnames, hmem, hrest⟩
        obtain ⟨rfl, rfl⟩ := List.cons.inj hnames
        refine ⟨hreachable, ?_⟩
        cases node with
        | file =>
          obtain rfl : _ = [] := by simpa [listing, Listing.files] using hrest
          exact .entry hread hmem
        | directory =>
          obtain ⟨hsearch, hfinds⟩ := ih.mp hrest
          exact .deeper hread hsearch hmem hfinds
        | _ => simp [listing, Listing.files] at hrest
      · rintro ⟨-, hfinds⟩
        cases hfinds with
        | entry _ hmem => exact ⟨_, _, _, rfl, hmem, by simp [listing, Listing.files]⟩
        | deeper _ hsearch hmem hfinds => exact ⟨_, _, _, rfl, hmem, ih.mpr ⟨hsearch, hfinds⟩⟩
    next h =>
      have hnone : ¬ (reachable ∧ (directory mode entries).Finds (name :: rest)) := by
        rintro ⟨hreachable, hfinds⟩
        cases hfinds <;> simp_all
      simp [Listing.files, hnone]

end FileTree

/-! ### Machines that show a tree -/

/-- What a machine says of paths is what a tree holds. A walk meets the entries of each directory in
any order. -/
structure Host.Shows {σ : Type} (host : Host σ) (state : σ) (tree : FileTree) : Prop where
  kind?_eq : host.kind? state = tree.kind?
  canonical?_eq : host.canonical? state = tree.canonical?
  read_eq : host.read state = tree.read
  list : ∀ path, (tree.list path).Reordered (host.list state path)

lemma Machine.shows (m : Machine) : host.Shows m m.tree :=
  ⟨rfl, rfl, rfl, fun _ => .refl _⟩

namespace Discovery

/-- A file with these names below the directory at `absolute`, which `path` is a spelling of. -/
def targetBelow (path absolute : Path) (names : List String) : Target :=
  ⟨(path.join (.ofNames names)).normalize, absolute.extend (names.map .name)⟩

/-- What a walk puts below a directory is found to be below it. -/
lemma targetBelow?_eq {path absolute : Path} {names : List String}
    (h : ∀ n ∈ names, IsName n) :
    targetBelow? path absolute names = some (targetBelow path absolute names) := by
  rw [targetBelow?, Path.stripPrefix?_extend (Path.isStep_of_mem_names h)]
  rfl

/-- The argument stands for a file at a place in the tree, under the spelling of the target: for a
file that it names, or for one that is found below a directory that it names. A link may stand for
either. -/
inductive Stands (tree : FileTree) (cwd argument : Path) : Target → List String → Prop
  | file {place : List String} {bytes : ByteArray} {mode : Nat}
      (hfile : tree.lookUp (cwd.join argument.normalize) = .ok (place, .file bytes mode)) :
      Stands tree cwd argument ⟨argument.normalize, cwd.join argument.normalize⟩ place
  | found {root names : List String} {dir : FileTree}
      (hdir : tree.lookUp (cwd.join argument.normalize) = .ok (root, dir))
      (hfinds : dir.Finds names) :
      Stands tree cwd argument
        (targetBelow argument.normalize (cwd.join argument.normalize) names) (root ++ names)

section Stands

variable {σ : Type} {host : Host σ} {state : σ} {tree : FileTree} {cwd argument argument' : Path}
  {t u : Target} {place place' : List String}

/-- What an argument stands for when it leads somewhere. -/
lemma stands_iff {root : List String} {node : FileTree}
    (hlook : tree.lookUp (cwd.join argument.normalize) = .ok (root, node)) :
    Stands tree cwd argument t place ↔
      (∃ bytes mode, node = .file bytes mode ∧
        t = ⟨argument.normalize, cwd.join argument.normalize⟩ ∧ place = root) ∨
      ∃ names, node.Finds names ∧ place = root ++ names ∧
        t = targetBelow argument.normalize (cwd.join argument.normalize) names := by
  constructor
  · rintro (⟨hfile⟩ | ⟨hdir, hfinds⟩)
    · obtain ⟨rfl, rfl⟩ := Prod.mk.inj (Except.ok.inj (hlook.symm.trans hfile))
      exact .inl ⟨_, _, rfl, rfl, rfl⟩
    · obtain ⟨rfl, rfl⟩ := Prod.mk.inj (Except.ok.inj (hlook.symm.trans hdir))
      exact .inr ⟨_, hfinds, rfl, rfl⟩
  · rintro (⟨bytes, mode, rfl, rfl, rfl⟩ | ⟨names, hfinds, rfl, rfl⟩)
    · exact .file hlook
    · exact .found hlook hfinds

/-- **What arguments stand for is what discovery considers.** -/
lemma mem_candidates_iff (h : host.Shows state tree) (htree : tree.WellNamed) :
    t ∈ (candidates host state cwd argument).1 ↔ ∃ place, Stands tree cwd argument t place := by
  unfold candidates
  simp only [h.kind?_eq]
  cases hlook : tree.lookUp (cwd.join argument.normalize) with
  | error reason =>
    have hnone : ∀ place, ¬ Stands tree cwd argument t place := by
      rintro _ (⟨hfile⟩ | ⟨hdir, -⟩)
      · cases hlook.symm.trans hfile
      · cases hlook.symm.trans hdir
    simp [FileTree.kind?, hlook, hnone]
  | ok found =>
    obtain ⟨root, node⟩ := found
    simp only [stands_iff hlook]
    cases node with
    | file bytes mode =>
      have hnone : ∀ names, ¬ (FileTree.file bytes mode).Finds names := by rintro _ ⟨⟩
      simp [FileTree.kind?, hlook, hnone]
    | directory mode entries =>
      have hlist : tree.list (cwd.join argument.normalize) =
          (FileTree.directory mode entries).listing true := by simp [FileTree.list, hlook]
      have hfiles := (h.list (cwd.join argument.normalize)).files_perm
      rw [hlist] at hfiles
      have hwell : (FileTree.directory mode entries).WellNamed :=
        htree.get? (FileTree.lookUp_eq_ok_iff.mp hlook).2.2
      simp only [FileTree.kind?, hlook, List.mem_filterMap, ← hfiles.mem_iff]
      constructor
      · rintro ⟨⟨names, _ | reason⟩, hfound, htarget⟩
        · obtain ⟨-, hfinds⟩ := FileTree.mem_files_listing.mp hfound
          obtain rfl := Option.some.inj
            ((targetBelow?_eq (hfinds.isName hwell)).symm.trans htarget)
          exact ⟨_, .inr ⟨names, hfinds, rfl, rfl⟩⟩
        · cases htarget
      · rintro ⟨_, ⟨_, _, ⟨⟩, -⟩ | ⟨names, hfinds, rfl, rfl⟩⟩
        exact ⟨(names, none), FileTree.mem_files_listing.mpr ⟨rfl, hfinds⟩,
          targetBelow?_eq (hfinds.isName hwell)⟩
    | link target =>
      have hnone : ∀ names, ¬ (FileTree.link target).Finds names := by rintro _ ⟨⟩
      simp [FileTree.kind?, hlook, hnone]
    | device zeros =>
      have hnone : ∀ names, ¬ (FileTree.device zeros).Finds names := by rintro _ ⟨⟩
      simp [FileTree.kind?, hlook, hnone]

/-! ### Spellings -/

/-- Where a file is found: straight below what its argument leads to. -/
lemma Stands.exists_root (h : Stands tree cwd argument t place) (htree : tree.WellNamed) :
    ∃ root node names bytes mode,
      tree.lookUp (cwd.join argument.normalize) = .ok (root, node) ∧
      node.get? names = some (.file bytes mode) ∧ (∀ n ∈ names, IsName n) ∧
      place = root ++ names ∧
      t.absolute = (cwd.join argument.normalize).extend (names.map .name) := by
  cases h with
  | @file place bytes mode hfile =>
    exact ⟨place, _, [], bytes, mode, hfile, rfl, by simp, by simp, by simp⟩
  | @found root names dir hdir hfinds =>
    have hwell : dir.WellNamed := htree.get? (FileTree.lookUp_eq_ok_iff.mp hdir).2.2
    obtain ⟨bytes, mode, hget⟩ := hfinds.get? hwell
    exact ⟨root, dir, names, bytes, mode, hdir, hget, hfinds.isName hwell, rfl, rfl⟩

lemma Stands.text_path_ne (h : Stands tree cwd argument t place) : t.path.text ≠ "" := by
  cases h <;> simp [targetBelow, Path.text_normalize_ne]

/-- **Two routes, one spelling**: the path of a target below the working directory is its absolute
path, except that a walk from the working directory itself has a `.` more. -/
lemma Stands.absolute_eq (h : Stands tree cwd argument t place) (htree : tree.WellNamed) :
    t.absolute = cwd.join t.path ∨
      t.path.isAbsolute = false ∧ t.absolute = cwd.join ((Path.mk ".").join t.path) := by
  cases h with
  | file hfile => exact .inl (by simp)
  | @found root names dir hdir hfinds =>
    have hwell : dir.WellNamed := htree.get? (FileTree.lookUp_eq_ok_iff.mp hdir).2.2
    have hnames := hfinds.isName hwell
    have hne := hfinds.ne_nil
    have hpath : (targetBelow argument.normalize (cwd.join argument.normalize) names).path =
        (Path.ofComponents argument.steps).join (.ofNames names) := by
      rw [targetBelow, Path.normalize_join_ofNames _ hne hnames, Path.steps_normalize]
    have habsolute : (targetBelow argument.normalize (cwd.join argument.normalize) names).absolute =
        cwd.join (argument.normalize.join (.ofNames names)) := by
      rw [targetBelow, Path.extend_eq_join _ (by simpa using hne), Path.join_assoc]
      rfl
    rw [hpath, habsolute, Path.normalize_eq]
    split
    next hempty =>
      have hjoin : (Path.ofComponents argument.steps).join (.ofNames names) = .ofNames names := by
        simp [Path.join, hempty]
      rw [hjoin]
      exact .inr ⟨Path.isAbsolute_ofNames hnames, rfl⟩
    next => exact .inl rfl

/-- **The spelling and the absolute path have the same steps.** -/
lemma Stands.steps_join_path (h : Stands tree cwd argument t place) (htree : tree.WellNamed) :
    (cwd.join t.path).steps = t.absolute.steps := by
  rcases h.absolute_eq htree with habsolute | ⟨hrelative, habsolute⟩
  · rw [habsolute]
  · have hdot : (Path.mk ".").steps = [] := by decide
    have hjoin : ((Path.mk ".").join t.path).isAbsolute = false := by
      rw [Path.isAbsolute_join, hrelative]
      decide
    rw [habsolute, Path.steps_join, Path.steps_join, hrelative, hjoin, Path.steps_join, hrelative,
      hdot]
    rfl

/-- One argument gives one spelling of a place. -/
lemma Stands.target_eq (h : Stands tree cwd argument t place)
    (h' : Stands tree cwd argument u place) : t = u := by
  cases h with
  | file hfile =>
    rcases (stands_iff hfile).mp h' with ⟨_, _, _, rfl, _⟩ | ⟨names, ⟨⟩, -⟩
    rfl
  | found hdir hfinds =>
    rcases (stands_iff hdir).mp h' with ⟨_, _, rfl, _⟩ | ⟨names, -, hplace, rfl⟩
    · cases hfinds
    · rw [List.append_cancel_left hplace]

/-! ### Places -/

lemma filterMap_pieceOf?_names (names : List String) :
    (names.map Component.name).filterMap FileTree.pieceOf? = names.map String.toList := by
  rw [List.filterMap_map]
  exact List.filterMap_eq_map ▸ rfl

/-- What has names below it is no link. -/
lemma ne_link_of_get? {node : FileTree} {names : List String} {bytes : ByteArray} {mode : Nat}
    (h : node.get? names = some (.file bytes mode)) (target : String) : node ≠ .link target := by
  rintro rfl
  cases names <;> cases h

/-- Names that stand in the tree below a path that leads somewhere lead on from there. -/
lemma names_eq_of_steps {p q : Path} {root root' names : List String} {node node' final : FileTree}
    (hp : tree.lookUp p = .ok (root, node)) (hq : tree.lookUp q = .ok (root', node'))
    (hsteps : q.steps = p.steps ++ names.map .name) (hnames : ∀ n ∈ names, IsName n)
    (hfinal : node.get? names = some final) (hlink : ∀ target, final ≠ .link target) :
    root' = root ++ names := by
  obtain ⟨⟨_, hp⟩, hnode⟩ := FileTree.leads_steps hp
  obtain ⟨⟨_, hq⟩, -⟩ := FileTree.leads_steps hq
  rw [hsteps, List.filterMap_append, filterMap_pieceOf?_names] at hq
  obtain ⟨_, middle, hfirst, hsecond⟩ := hq.split
  obtain rfl := hfirst.names_eq hp
  rw [← List.append_nil (names.map String.toList)] at hsecond
  cases hsecond.straight hnode hfinal hlink hnames
  rfl

/-- Names that stand in the tree lead straight down from the root. -/
lemma names_eq_of_root {q : Path} {root names : List String} {node final : FileTree}
    (hq : tree.lookUp q = .ok (root, node)) (hsteps : q.steps = .root :: names.map .name)
    (hnames : ∀ n ∈ names, IsName n) (hfinal : tree.get? names = some final)
    (hlink : ∀ target, final ≠ .link target) : root = names := by
  obtain ⟨⟨_, hq⟩, -⟩ := FileTree.leads_steps hq
  rw [hsteps, List.filterMap_cons_none rfl, filterMap_pieceOf?_names,
    ← List.append_nil (names.map String.toList)] at hq
  cases hq.straight rfl hfinal hlink hnames
  rfl

lemma map_name_injective : Function.Injective (List.map Component.name) :=
  List.map_injective_iff.mpr fun _ _ h => Component.name.inj h

/-- Names that begin with some steps begin with the names of these. -/
lemma exists_names_of_append {cs : List Component} {names names' : List String}
    (h : names.map Component.name = cs ++ names'.map .name) :
    ∃ front, cs = front.map .name ∧ names = front ++ names' := by
  obtain ⟨front, back, rfl, rfl, hback⟩ := List.map_eq_append_iff.mp h
  exact ⟨front, rfl, by rw [map_name_injective hback]⟩

/-- Where one of two starts is above the other, the walk from the upper one passes the lower one. -/
lemma place_eq_of_passed {p q : Path} {root root' names names' : List String}
    {node node' : FileTree} {cs : List Component} {bytes : ByteArray} {mode : Nat}
    (hp : tree.lookUp p = .ok (root, node)) (hq : tree.lookUp q = .ok (root', node'))
    (hnames : ∀ n ∈ names, IsName n) (hfile : node.get? names = some (.file bytes mode))
    (hsteps : q.steps = p.steps ++ cs) (hcs : names.map Component.name = cs ++ names'.map .name) :
    root ++ names = root' ++ names' := by
  obtain ⟨front, rfl, rfl⟩ := exists_names_of_append hcs
  rw [FileTree.get?_append] at hfile
  obtain ⟨middle, hmiddle, hrest⟩ := Option.bind_eq_some_iff.mp hfile
  have hfront : ∀ n ∈ front, IsName n := fun n hn => hnames n (List.mem_append_left _ hn)
  rw [names_eq_of_steps hp hq hsteps hfront hmiddle (ne_link_of_get? hrest), List.append_assoc]

/-- **The absolute path says where the file is**, and no other way of writing it leads elsewhere. -/
lemma Stands.place_eq_of_steps (h : Stands tree cwd argument t place)
    (h' : Stands tree cwd argument' u place') (htree : tree.WellNamed)
    (hsteps : t.absolute.steps = u.absolute.steps) : place = place' := by
  obtain ⟨root, node, names, bytes, mode, hroot, hfile, hnames, rfl, habsolute⟩ :=
    h.exists_root htree
  obtain ⟨root', node', names', bytes', mode', hroot', hfile', hnames', rfl, habsolute'⟩ :=
    h'.exists_root htree
  rw [habsolute, habsolute', Path.steps_extend (Path.isStep_of_mem_names hnames),
    Path.steps_extend (Path.isStep_of_mem_names hnames')] at hsteps
  rcases List.append_eq_append_iff.mp hsteps with ⟨cs, hq, hcs⟩ | ⟨cs, hp, hcs⟩
  · exact place_eq_of_passed hroot hroot' hnames hfile hq hcs
  · exact (place_eq_of_passed hroot' hroot hnames' hfile' hp hcs).symm

/-- **The spelling says which file it is.** -/
lemma Stands.place_eq_of_path (h : Stands tree cwd argument t place)
    (h' : Stands tree cwd argument' u place') (htree : tree.WellNamed)
    (hpath : t.path.steps = u.path.steps) : place = place' := by
  refine h.place_eq_of_steps h' htree ?_
  rw [← h.steps_join_path htree, ← h'.steps_join_path htree, Path.steps_join, Path.steps_join,
    hpath, Path.isAbsolute_congr hpath]

/-- The file stands in the tree. -/
lemma Stands.get? (h : Stands tree cwd argument t place) (htree : tree.WellNamed) :
    ∃ bytes mode, tree.get? place = some (.file bytes mode) := by
  obtain ⟨root, node, names, bytes, mode, hroot, hfile, -, rfl, -⟩ := h.exists_root htree
  have hnode := (FileTree.lookUp_eq_ok_iff.mp hroot).2.2
  exact ⟨bytes, mode, by rw [FileTree.get?_append, hnode]; exact hfile⟩

/-- A target that leads anywhere leads to its file. -/
lemma Stands.place_eq_of_lookUp (h : Stands tree cwd argument t place) (htree : tree.WellNamed)
    {names : List String} {node : FileTree} (hlook : tree.lookUp t.absolute = .ok (names, node)) :
    names = place := by
  obtain ⟨root, _, below, bytes, mode, hroot, hfile, hnames, rfl, habsolute⟩ := h.exists_root htree
  refine names_eq_of_steps hroot hlook ?_ hnames hfile (by simp)
  rw [habsolute, Path.steps_extend (Path.isStep_of_mem_names hnames)]

/-! ### Canonical paths -/

lemma isName_of_get? {names : List String} {node : FileTree} (htree : tree.WellNamed)
    (h : tree.get? names = some node) : ∀ n ∈ names, IsName n := by
  induction names generalizing tree with
  | nil => simp
  | cons name names ih =>
    obtain ⟨child, hchild, hrest⟩ := Option.bind_eq_some_iff.mp h
    cases htree with
    | directory _ hnames hentries =>
      obtain ⟨entry, hfind, rfl⟩ := Option.map_eq_some_iff.mp hchild
      have hmem := List.mem_of_find?_eq_some hfind
      have hname : entry.1 = name := by simpa using List.find?_some hfind
      exact List.forall_mem_cons.mpr ⟨hname ▸ hnames entry hmem, ih (hentries entry hmem) hrest⟩
    | _ => cases hchild

lemma steps_namesPath {names : List String} (h : ∀ n ∈ names, IsName n) :
    (FileTree.namesPath names).steps = .root :: names.map .name := by
  have hroot : (Path.mk "/").steps = [.root] := by decide
  rw [FileTree.namesPath, Path.steps_extend (Path.isStep_of_mem_names h), hroot]
  rfl

/-- The path that tells files apart. -/
def keyPath (tree : FileTree) (t : Target) : Path := (tree.canonical? t.absolute).getD t.absolute

lemma key_eq (h : host.Shows state tree) : key host state t = (keyPath tree t).components := by
  rw [key, h.canonical?_eq, keyPath]

/-- The path that tells a file apart is the one of its place, or its own if it is out of reach. -/
lemma Stands.keyPath_cases (h : Stands tree cwd argument t place) (htree : tree.WellNamed) :
    (keyPath tree t).steps = .root :: place.map .name ∨ keyPath tree t = t.absolute := by
  unfold keyPath FileTree.canonical?
  cases hlook : tree.lookUp t.absolute with
  | error reason => exact .inr rfl
  | ok found =>
    obtain ⟨bytes, mode, hfile⟩ := h.get? htree
    obtain rfl := h.place_eq_of_lookUp htree hlook
    exact .inl (steps_namesPath (isName_of_get? htree hfile))

/-- A file whose absolute path has the steps of a place is at that place. -/
lemma Stands.place_eq_of_root (h : Stands tree cwd argument t place)
    (h' : Stands tree cwd argument' u place') (htree : tree.WellNamed)
    (hsteps : u.absolute.steps = .root :: place.map .name) : place' = place := by
  obtain ⟨bytes, mode, hfile⟩ := h.get? htree
  have hplace := isName_of_get? htree hfile
  obtain ⟨root, node, names, _, _, hroot, -, hnames, rfl, habsolute⟩ := h'.exists_root htree
  rw [habsolute, Path.steps_extend (Path.isStep_of_mem_names hnames)] at hsteps
  rcases List.append_eq_cons_iff.mp hsteps with ⟨-, hroot'⟩ | ⟨cs, hstart, hcs⟩
  · -- a name is not the root
    obtain ⟨_, _, hfalse⟩ := List.mem_map.mp (hroot' ▸ List.mem_cons_self : _ ∈ names.map _)
    cases hfalse
  · obtain ⟨front, rfl, rfl⟩ := exists_names_of_append hcs
    rw [FileTree.get?_append] at hfile
    obtain ⟨middle, hmiddle, hrest⟩ := Option.bind_eq_some_iff.mp hfile
    have hfront : ∀ n ∈ front, IsName n := fun n hn => hplace n (List.mem_append_left _ hn)
    rw [names_eq_of_root hroot hstart hfront hmiddle (ne_link_of_get? hrest)]

/-- **What tells files apart does so**: targets with one key are one file, even where a canonical
path stands beside one that cannot be had. -/
lemma Stands.place_eq_of_key (h : Stands tree cwd argument t place)
    (h' : Stands tree cwd argument' u place') (htree : tree.WellNamed)
    (hshows : host.Shows state tree) (hkey : key host state t = key host state u) :
    place = place' := by
  rw [key_eq hshows, key_eq hshows] at hkey
  have hsteps : (keyPath tree t).steps = (keyPath tree u).steps := by
    rw [Path.steps, hkey, Path.steps]
  rcases h.keyPath_cases htree with ht | ht <;> rcases h'.keyPath_cases htree with hu | hu
  · rw [ht, hu] at hsteps
    exact map_name_injective (List.cons.inj hsteps).2
  · rw [ht, hu] at hsteps
    exact (h.place_eq_of_root h' htree hsteps.symm).symm
  · rw [ht, hu] at hsteps
    exact h'.place_eq_of_root h htree hsteps
  · rw [ht, hu] at hsteps
    exact h.place_eq_of_steps h' htree hsteps

/-- Targets within reach that are one file have one key. -/
lemma Stands.key_eq_of_place (h : Stands tree cwd argument t place)
    (h' : Stands tree cwd argument' u place) (htree : tree.WellNamed)
    (hshows : host.Shows state tree) (ht : (tree.canonical? t.absolute).isSome)
    (hu : (tree.canonical? u.absolute).isSome) : key host state t = key host state u := by
  have hpath {argument : Path} {t : Target} (h : Stands tree cwd argument t place)
      (ht : (tree.canonical? t.absolute).isSome) : keyPath tree t = FileTree.namesPath place := by
    unfold keyPath
    unfold FileTree.canonical? at ht ⊢
    cases hlook : tree.lookUp t.absolute with
    | error reason => simp [hlook] at ht
    | ok found => rw [← h.place_eq_of_lookUp htree hlook]; rfl
  rw [key_eq hshows, key_eq hshows, hpath h ht, hpath h' hu]

end Stands

end Discovery

/-! ### A thicket -/

namespace FileTree

/-- A small tree, in which a link leads to a directory. -/
def thicket : FileTree :=
  .directory 0o755 [("w", .directory 0o755 [
    ("a.py", .file .empty 0o644),
    ("d", .directory 0o755 [
      ("b.py", .file .empty 0o644),
      ("e", .directory 0o755 [("c.py", .file .empty 0o644)])]),
    ("es", .link "d")])]

lemma wellNamed_thicket : thicket.WellNamed := by
  have he : (directory 0o755 [("c.py", file .empty 0o644)]).WellNamed :=
    .directory (by decide +kernel) (by decide +kernel) (by simp [WellNamed.file])
  have hd : (directory 0o755 [("b.py", file .empty 0o644),
      ("e", directory 0o755 [("c.py", file .empty 0o644)])]).WellNamed :=
    .directory (by decide +kernel) (by decide +kernel) (by simp [WellNamed.file, he])
  refine .directory (by decide +kernel) (by decide +kernel) ?_
  simpa using .directory (by decide +kernel) (by decide +kernel)
    (by simp [WellNamed.file, WellNamed.link, hd])

lemma canonical?_of_map {t : FileTree} {p : Path} {names : List String}
    (h : (t.lookUp p).map (·.1) = .ok names) : t.canonical? p = some (namesPath names) := by
  unfold canonical?
  cases hlook : t.lookUp p with
  | error reason => simp [hlook, Except.map] at h
  | ok found =>
    obtain rfl : found.1 = names := by simpa [hlook, Except.map] using h
    rfl

/-- Where the paths to its files lead. -/
lemma canonical?_thicket : thicket.canonical? ⟨"/w/a.py"⟩ = some ⟨"/w/a.py"⟩ ∧
    thicket.canonical? ⟨"/w/d/b.py"⟩ = some ⟨"/w/d/b.py"⟩ ∧
    thicket.canonical? ⟨"/w/d/e/c.py"⟩ = some ⟨"/w/d/e/c.py"⟩ ∧
    thicket.canonical? ⟨"/w/es/b.py"⟩ = some ⟨"/w/d/b.py"⟩ ∧
    thicket.canonical? ⟨"/w/es/e/c.py"⟩ = some ⟨"/w/d/e/c.py"⟩ := by
  have hlook : ["/w/a.py", "/w/d/b.py", "/w/d/e/c.py", "/w/es/b.py", "/w/es/e/c.py"].map
        (fun text => (thicket.lookUp ⟨text⟩).map (·.1)) =
      [.ok ["w", "a.py"], .ok ["w", "d", "b.py"], .ok ["w", "d", "e", "c.py"],
        .ok ["w", "d", "b.py"], .ok ["w", "d", "e", "c.py"]] := by cbv
  simp only [List.map_cons, List.map_nil, List.cons.injEq] at hlook
  obtain ⟨ha, hb, hc, hb', hc', -⟩ := hlook
  rw [canonical?_of_map ha, canonical?_of_map hb, canonical?_of_map hc, canonical?_of_map hb',
    canonical?_of_map hc']
  decide +kernel

end FileTree

def Machine.thicket : Machine := ⟨.thicket, []⟩

namespace Discovery

/-- What arguments stand for there. -/
lemma candidates_thicket :
    (candidates Machine.host .thicket ⟨"/w"⟩ ⟨"a.py"⟩).1 = [⟨⟨"a.py"⟩, ⟨"/w/a.py"⟩⟩] ∧
    (candidates Machine.host .thicket ⟨"/w"⟩ ⟨"d"⟩).1 =
      [⟨⟨"d/b.py"⟩, ⟨"/w/d/b.py"⟩⟩, ⟨⟨"d/e/c.py"⟩, ⟨"/w/d/e/c.py"⟩⟩] ∧
    (candidates Machine.host .thicket ⟨"/w"⟩ ⟨"es"⟩).1 =
      [⟨⟨"es/b.py"⟩, ⟨"/w/es/b.py"⟩⟩, ⟨⟨"es/e/c.py"⟩, ⟨"/w/es/e/c.py"⟩⟩] ∧
    (candidates Machine.host .thicket ⟨"/w"⟩ ⟨"gone"⟩).1 = [] := by
  have hpaths : ["a.py", "d", "es", "gone"].map
      (fun text => (Path.mk "/w").join (Path.mk text).normalize) =
        [⟨"/w/a.py"⟩, ⟨"/w/d"⟩, ⟨"/w/es"⟩, ⟨"/w/gone"⟩] := by decide +kernel
  have hkinds : ["/w/a.py", "/w/d", "/w/es", "/w/gone"].map
      (fun text => FileTree.thicket.kind? ⟨text⟩) =
        [some .file, some .directory, some .directory, none] := by cbv
  have hfiles : ["/w/d", "/w/es"].map (fun text => (FileTree.thicket.list ⟨text⟩).files) =
      [[(["b.py"], none), (["e", "c.py"], none)], [(["b.py"], none), (["e", "c.py"], none)]] := by
    cbv
  simp only [List.map_cons, List.map_nil, List.cons.injEq] at hpaths hkinds hfiles
  simp only [candidates, Machine.host, Machine.thicket, hpaths, hkinds, hfiles]
  decide +kernel

end Discovery

end LintChain

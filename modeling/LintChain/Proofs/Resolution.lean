import LintChain.FileTree
import LintChain.Proofs.Components

/-!
Where paths lead in a tree of files, as a relation beside the function that follows them. A path
may be followed in parts, its blank pieces may be left out, and along names that no link stands for
it goes straight down the tree.
-/

namespace LintChain.FileTree

/-- A piece of a path that stays where it is. -/
def IsBlank (piece : List Char) : Prop := piece = [] ∨ piece = ['.']

instance (piece : List Char) : Decidable (IsBlank piece) :=
  inferInstanceAs (Decidable (_ ∨ _))

/-- Where the target of a link is looked up from. -/
def origin (here : List String) (target : String) : List String :=
  if target.toList.head? = some '/' then [] else here

/-- What a piece does that is to be looked up in a directory: it leads on to a place, and what a
link stands for is to be followed from there. A link uses up one of the links that may be
followed. -/
inductive Step (t : FileTree) :
    Nat → List String → List Char → Nat → List String → List (List Char) → Prop
  | skip {links : Nat} {here : List String} {dir : FileTree} (hdir : t.get? here = some dir)
      (hdirectory : dir.isDirectory) : Step t links here [] links here []
  | stay {links : Nat} {here : List String} {dir : FileTree} (hdir : t.get? here = some dir)
      (hsearch : dir.isSearchable) : Step t links here ['.'] links here []
  | rise {links : Nat} {here : List String} {dir : FileTree} (hdir : t.get? here = some dir)
      (hsearch : dir.isSearchable) : Step t links here ['.', '.'] links here.dropLast []
  | enter {links : Nat} {here : List String} {piece : List Char} {dir child : FileTree}
      (hdir : t.get? here = some dir) (hsearch : dir.isSearchable) (hblank : ¬ IsBlank piece)
      (hparent : piece ≠ ['.', '.'])
      (hlength : (String.ofList piece).utf8ByteSize ≤ maxNameLength)
      (hchild : dir.child? (String.ofList piece) = some child)
      (hlink : ∀ target, child ≠ .link target) :
      Step t links here piece links (here ++ [String.ofList piece]) []
  | follow {links : Nat} {here : List String} {piece : List Char} {dir : FileTree}
      {target : String} (hdir : t.get? here = some dir) (hsearch : dir.isSearchable)
      (hblank : ¬ IsBlank piece) (hparent : piece ≠ ['.', '.'])
      (hlength : (String.ofList piece).utf8ByteSize ≤ maxNameLength)
      (hchild : dir.child? (String.ofList piece) = some (.link target)) :
      Step t (links + 1) here piece links (origin here target) (Text.fields '/' target.toList)

/-- From `here` the pieces lead to the names at the end, with some links left that may still be
followed. -/
inductive Leads (t : FileTree) :
    Nat → List String → List (List Char) → Nat → List String → Prop
  | nil {links : Nat} {here : List String} : Leads t links here [] links here
  | cons {links links' left : Nat} {here there names : List String} {piece : List Char}
      {more rest : List (List Char)} (hstep : Step t links here piece links' there more)
      (hrest : Leads t links' there (more ++ rest) left names) :
      Leads t links here (piece :: rest) left names

variable {t : FileTree} {links links' left : Nat} {here there names : List String}
  {piece : List Char} {more pieces : List (List Char)}

lemma isDirectory_of_isSearchable {dir : FileTree} (h : dir.isSearchable) : dir.isDirectory := by
  cases dir <;> first | rfl | cases h

/-! ### The relation and the function -/

lemma leads_of_follow {node : FileTree}
    (h : t.follow true links here pieces = .ok ⟨names, some node⟩) :
    (∃ left, Leads t links here pieces left names) ∧ t.get? names = some node := by
  fun_induction follow t true links here pieces with
  | case1 links here =>
    obtain ⟨rfl, hnode⟩ : here = names ∧ t.get? here = some node := by simpa using h
    exact ⟨⟨links, .nil⟩, hnode⟩
  | case4 links here rest dir hdir hdirectory ih =>
    obtain ⟨⟨left, hrest⟩, hnode⟩ := ih h
    exact ⟨⟨left, .cons (.skip hdir (by simpa using hdirectory)) hrest⟩, hnode⟩
  | case6 links here rest dir hdir _ hsearch _ ih =>
    obtain ⟨⟨left, hrest⟩, hnode⟩ := ih h
    exact ⟨⟨left, .cons (.stay hdir (by simpa using hsearch)) hrest⟩, hnode⟩
  | case7 links here rest dir hdir _ hsearch _ _ ih =>
    obtain ⟨⟨left, hrest⟩, hnode⟩ := ih h
    exact ⟨⟨left, .cons (.rise hdir (by simpa using hsearch)) hrest⟩, hnode⟩
  | case11 _ _ _ _ _ _ _ _ _ _ _ _ _ _ _ hlast => cases hlast.2
  | case13 here piece rest dir hdir _ hempty hsearch hdot hparent _ hlength target hchild _ links _
      ih =>
    obtain ⟨⟨left, hrest⟩, hnode⟩ := ih h
    exact ⟨⟨left, .cons (.follow hdir (by simpa using hsearch) (not_or.mpr ⟨hempty, hdot⟩) hparent
      (Nat.not_lt.mp hlength) hchild) hrest⟩, hnode⟩
  | case14 links here piece rest dir hdir _ hempty hsearch hdot hparent _ hlength child hlink hchild
      ih =>
    obtain ⟨⟨left, hrest⟩, hnode⟩ := ih h
    exact ⟨⟨left, .cons (.enter hdir (by simpa using hsearch) (not_or.mpr ⟨hempty, hdot⟩) hparent
      (Nat.not_lt.mp hlength) hchild hlink) hrest⟩, hnode⟩
  | _ => cases h

/-- The function takes the same steps. -/
lemma follow_cons (h : Step t links here piece links' there more) {rest : List (List Char)} :
    t.follow true links here (piece :: rest) = t.follow true links' there (more ++ rest) := by
  cases h with
  | skip hdir hdirectory => simp [follow, hdir, hdirectory]
  | stay hdir hsearch => simp [follow, hdir, hsearch, isDirectory_of_isSearchable hsearch]
  | rise hdir hsearch => simp [follow, hdir, hsearch, isDirectory_of_isSearchable hsearch]
  | enter hdir hsearch hblank hparent hlength hchild hlink =>
    obtain ⟨hempty, hdot⟩ := not_or.mp hblank
    have hdirectory := isDirectory_of_isSearchable hsearch
    rw [follow]
    simp only [hdir, hdirectory, hsearch, hempty, hdot, hparent, Nat.not_lt.mpr hlength, hchild,
      Bool.not_true, Bool.false_eq_true, if_false]
    rfl
  | follow hdir hsearch hblank hparent hlength hchild =>
    obtain ⟨hempty, hdot⟩ := not_or.mp hblank
    have hdirectory := isDirectory_of_isSearchable hsearch
    rw [follow]
    simp only [hdir, hdirectory, hsearch, hempty, hdot, hparent, Nat.not_lt.mpr hlength, hchild,
      Bool.not_true, Bool.false_eq_true, if_false, and_false]
    rfl

lemma follow_of_leads {node : FileTree} (h : Leads t links here pieces left names)
    (hnode : t.get? names = some node) :
    t.follow true links here pieces = .ok ⟨names, some node⟩ := by
  induction h with
  | nil => simp [follow, hnode]
  | cons hstep _ ih => rw [follow_cons hstep, ih hnode]

/-- **The relation says where the function goes.** -/
theorem follow_eq_ok_iff {node : FileTree} :
    t.follow true links here pieces = .ok ⟨names, some node⟩ ↔
      (∃ left, Leads t links here pieces left names) ∧ t.get? names = some node :=
  ⟨leads_of_follow, fun ⟨⟨_, h⟩, hnode⟩ => follow_of_leads h hnode⟩

/-! ### Following in parts -/

/-- A piece leads to one place. -/
lemma Step.unique {links'' : Nat} {there' : List String} {more' : List (List Char)}
    (h : Step t links here piece links' there more)
    (h' : Step t links here piece links'' there' more') :
    links' = links'' ∧ there = there' ∧ more = more' := by
  cases h <;> cases h' <;> grind [IsBlank]

lemma Step.more_links (h : Step t links here piece links' there more) (k : Nat) :
    Step t (links + k) here piece (links' + k) there more := by
  cases h with
  | skip hdir hdirectory => exact .skip hdir hdirectory
  | stay hdir hsearch => exact .stay hdir hsearch
  | rise hdir hsearch => exact .rise hdir hsearch
  | enter hdir hsearch hblank hparent hlength hchild hlink =>
    exact .enter hdir hsearch hblank hparent hlength hchild hlink
  | follow hdir hsearch hblank hparent hlength hchild =>
    rw [Nat.add_right_comm]
    exact .follow hdir hsearch hblank hparent hlength hchild

namespace Leads

lemma unique {left' : Nat} {names' : List String} (h : Leads t links here pieces left names)
    (h' : Leads t links here pieces left' names') : left = left' ∧ names = names' := by
  induction h with
  | nil =>
    cases h'
    exact ⟨rfl, rfl⟩
  | cons hstep _ ih =>
    cases h' with
    | cons hstep' hrest' =>
      obtain ⟨rfl, rfl, rfl⟩ := hstep.unique hstep'
      exact ih hrest'

lemma more_links (h : Leads t links here pieces left names) (k : Nat) :
    Leads t (links + k) here pieces (left + k) names := by
  induction h with
  | nil => exact .nil
  | cons hstep _ ih => exact .cons (hstep.more_links k) ih

/-- However many links may be followed, a path leads to one place. -/
lemma names_eq {links' left' : Nat} {names' : List String}
    (h : Leads t links here pieces left names) (h' : Leads t links' here pieces left' names') :
    names = names' := by
  have hmore := h.more_links links'
  rw [Nat.add_comm] at hmore
  exact (hmore.unique (h'.more_links links)).2

/-- **What is followed in one go is followed in two.** -/
lemma split {first second : List (List Char)}
    (h : Leads t links here (first ++ second) left names) :
    ∃ links' middle, Leads t links here first links' middle ∧
      Leads t links' middle second left names := by
  generalize hpieces : first ++ second = pieces at h
  induction h generalizing first with
  | nil =>
    obtain ⟨rfl, rfl⟩ := List.append_eq_nil_iff.mp hpieces
    exact ⟨_, _, .nil, .nil⟩
  | cons hstep hrest ih =>
    rcases List.append_eq_cons_iff.mp hpieces with ⟨rfl, rfl⟩ | ⟨first, rfl, rfl⟩
    · exact ⟨_, _, .nil, .cons hstep hrest⟩
    · obtain ⟨links', middle, hfirst, hsecond⟩ := ih (List.append_assoc _ _ _)
      exact ⟨links', middle, .cons hstep hfirst, hsecond⟩

lemma left_le (h : Leads t links here pieces left names) : left ≤ links := by
  induction h with
  | nil => exact Nat.le_refl _
  | cons hstep _ ih => cases hstep <;> omega

/-! ### Blank pieces -/

lemma of_blank_cons (h : Leads t links here (piece :: pieces) left names) (hblank : IsBlank piece) :
    Leads t links here pieces left names := by
  cases h with
  | cons hstep hrest =>
    cases hstep with
    | skip | stay => exact hrest
    | rise => simp [IsBlank] at hblank
    | enter _ _ hsolid | follow _ _ hsolid => exact absurd hblank hsolid

/-- **Blank pieces make no difference** to where a path leads, if it leads anywhere. -/
lemma filter (h : Leads t links here pieces left names) :
    Leads t links here (pieces.filter (¬ IsBlank ·)) left names := by
  -- what a link stands for is followed as it is, and stands in front of what is left
  suffices hfront : ∀ front back, pieces = front ++ back →
      Leads t links here (front ++ back.filter (¬ IsBlank ·)) left names from
    hfront [] pieces rfl
  induction h with
  | nil =>
    intro front back hpieces
    obtain ⟨rfl, rfl⟩ := List.append_eq_nil_iff.mp hpieces.symm
    exact .nil
  | @cons _ _ _ _ _ _ piece more rest hstep hrest ih =>
    intro front back hpieces
    rcases List.append_eq_cons_iff.mp hpieces.symm with ⟨rfl, rfl⟩ | ⟨front, rfl, rfl⟩
    · by_cases hblank : IsBlank piece
      · rw [List.filter_cons_of_neg (by simpa using hblank)]
        have hthin := ih more rest rfl
        exact of_blank_cons (.cons hstep hthin) hblank
      · rw [List.filter_cons_of_pos (by simpa using hblank)]
        exact .cons hstep (ih more rest rfl)
    · rw [List.cons_append]
      refine .cons hstep ?_
      rw [← List.append_assoc]
      exact ih (more ++ front) back (List.append_assoc _ _ _).symm

end Leads

/-! ### Straight down -/

lemma get?_append (t : FileTree) (xs ys : List String) :
    t.get? (xs ++ ys) = (t.get? xs).bind (get? ys) := by
  induction xs generalizing t with
  | nil => rfl
  | cons x xs ih =>
    simp only [List.cons_append, get?]
    cases t.child? x with
    | none => rfl
    | some child => exact ih child

open Component (IsName)

/-- **Names that no link stands for lead straight down.** -/
lemma Leads.straight {ns : List String} {dir node : FileTree} {rest : List (List Char)}
    (hdir : t.get? here = some dir) (hnode : dir.get? ns = some node)
    (hlink : ∀ target, node ≠ .link target) (hnames : ∀ n ∈ ns, IsName n)
    (h : Leads t links here (ns.map String.toList ++ rest) left names) :
    Leads t links (here ++ ns) rest left names := by
  induction ns generalizing here dir links with
  | nil => simpa using h
  | cons n ns ih =>
    obtain ⟨hname, hnames⟩ := List.forall_mem_cons.mp hnames
    obtain ⟨child, hchild, hrest⟩ := Option.bind_eq_some_iff.mp hnode
    have hbelow : t.get? (here ++ [n]) = some child := by
      rw [get?_append, hdir]
      simpa [get?] using hchild
    rw [List.map_cons, List.cons_append] at h
    generalize hpiece : n.toList = piece at h
    have hn : String.ofList piece = n := by rw [← hpiece, String.ofList_toList]
    have hsolid : Component.ofPiece? piece = some (.name n) := by
      rw [← hpiece]
      exact Component.ofPiece?_text (Component.isStep_name hname)
    cases h with
    | cons hstep hgo =>
      cases hstep with
      | skip | stay | rise => simp [Component.ofPiece?] at hsolid
      | enter =>
        rw [hn] at hgo
        have := ih hbelow hrest hnames hgo
        rwa [List.append_assoc, List.singleton_append] at this
      | follow hdir' _ _ _ _ hchild' =>
        -- a link leads nowhere without being followed
        obtain rfl := Option.some.inj (hdir'.symm.trans hdir)
        rw [hn, hchild] at hchild'
        obtain rfl := Option.some.inj hchild'
        cases ns with
        | nil =>
          obtain rfl := Option.some.inj hrest
          exact absurd rfl (hlink _)
        | cons => cases hrest

/-! ### Whole paths -/

/-- The piece of a path that stands for a step, but for the root. -/
def pieceOf? : Component → Option (List Char)
  | .root | .current => none
  | .parent => some ['.', '.']
  | .name text => some text.toList

lemma filter_pieces (p : Path) :
    p.pieces.filter (¬ IsBlank ·) = p.steps.filterMap pieceOf? := by
  have hpiece (piece : List Char) : (Component.ofPiece? piece).bind pieceOf? =
      Option.guard (¬ IsBlank ·) piece := by
    unfold Component.ofPiece?
    by_cases hblank : IsBlank piece
    · have hnone : piece = [] ∨ piece = ['.'] := hblank
      simp [hnone, Option.guard, hblank]
    · have hsolid : ¬ (piece = [] ∨ piece = ['.']) := hblank
      by_cases hparent : piece = ['.', '.']
      · simp [hparent, pieceOf?, Option.guard, IsBlank]
      · simp [hsolid, hparent, pieceOf?, Option.guard, hblank]
  have hbody : (p.pieces.filterMap Component.ofPiece?).filterMap pieceOf? =
      p.pieces.filter (¬ IsBlank ·) := by
    rw [List.filterMap_filterMap, ← List.filterMap_eq_filter]
    exact List.filterMap_congr fun piece _ => hpiece piece
  rw [Path.steps_eq, List.filterMap_append, hbody]
  cases p.isAbsolute <;> rfl

/-- What the system takes for a path. -/
structure Takes (p : Path) : Prop where
  ne_empty : p.text ≠ ""
  no_zero : holdsZero p.text = false
  length_le : p.text.utf8ByteSize ≤ maxPathLength

/-- What a path leads to for a process that works in the directory `here`. -/
def lookUpFrom (t : FileTree) (here : List String) (p : Path) :
    Except SystemError (List String × FileTree) :=
  if p.text.isEmpty then .error .notFound
  else if holdsZero p.text then .error .zeroInPath
  else if maxPathLength < p.text.utf8ByteSize then .error .nameTooLong
  else
    match t.follow true maxLinks (if p.isAbsolute then [] else here) p.pieces with
    | .error reason => .error reason
    | .ok ⟨names, some node⟩ => .ok (names, node)
    | .ok ⟨_, none⟩ => .error .notFound

/-- Seen from the root every path leads where it leads. -/
lemma lookUpFrom_nil (t : FileTree) (p : Path) : t.lookUpFrom [] p = t.lookUp p := by
  unfold lookUpFrom lookUp locate
  rw [ite_self]
  split_ifs
  all_goals try rfl
  rcases t.follow true maxLinks [] p.pieces with _ | ⟨names, _ | node⟩ <;> rfl

lemma lookUpFrom_eq_ok_iff {p : Path} {node : FileTree} :
    t.lookUpFrom here p = .ok (names, node) ↔ Takes p ∧
      (∃ left, Leads t maxLinks (if p.isAbsolute then [] else here) p.pieces left names) ∧
      t.get? names = some node := by
  rw [← follow_eq_ok_iff]
  unfold lookUpFrom
  generalize (if p.isAbsolute then [] else here) = start
  constructor
  · intro h
    split_ifs at h with hempty hzero hlong
    refine ⟨⟨by simpa using hempty, by simpa using hzero, Nat.not_lt.mp hlong⟩, ?_⟩
    split at h
    next => cases h
    next hfollow =>
      obtain ⟨rfl, rfl⟩ := Prod.mk.inj (Except.ok.inj h)
      exact hfollow
    next => cases h
  · rintro ⟨htakes, hfollow⟩
    simp [htakes.ne_empty, htakes.no_zero, Nat.not_lt.mpr htakes.length_le, hfollow]

lemma lookUp_eq_ok_iff {p : Path} {node : FileTree} : t.lookUp p = .ok (names, node) ↔
    Takes p ∧ (∃ left, Leads t maxLinks [] p.pieces left names) ∧ t.get? names = some node := by
  rw [← lookUpFrom_nil, lookUpFrom_eq_ok_iff, ite_self]

/-- **The steps of a path say where it leads.** -/
lemma leads_steps {p : Path} {node : FileTree} (h : t.lookUp p = .ok (names, node)) :
    (∃ left, Leads t maxLinks [] (p.steps.filterMap pieceOf?) left names) ∧
      t.get? names = some node := by
  obtain ⟨-, ⟨left, hleads⟩, hnode⟩ := lookUp_eq_ok_iff.mp h
  rw [← filter_pieces]
  exact ⟨⟨left, hleads.filter⟩, hnode⟩

/-! ### Paths below the working directory -/

lemma Takes.of_join {p q : Path} (h : Takes (p.join q)) (hq : q.text ≠ "") : Takes q := by
  cases habsolute : q.isAbsolute with
  | true => rwa [Path.join_of_isAbsolute habsolute] at h
  | false =>
    obtain ⟨-, hzero, hlength⟩ := h
    rw [Path.text_join habsolute] at hzero hlength
    refine ⟨hq, ?_, ?_⟩
    · simp only [holdsZero, String.contains_char_eq, String.toList_append, List.mem_append,
        decide_eq_false_iff_not, not_or] at hzero ⊢
      exact hzero.2
    · rw [String.utf8ByteSize_append] at hlength
      omega

lemma exists_of_enter {p : Path} (h : t.enter p = .ok here) :
    ∃ dir, t.lookUp p = .ok (here, dir) := by
  unfold enter at h
  cases hlook : t.lookUp p with
  | error reason => simp [hlook, bind, Except.bind] at h
  | ok found =>
    obtain ⟨names, dir⟩ := found
    simp only [hlook, bind, Except.bind] at h
    split_ifs at h
    obtain rfl : names = here := Except.ok.inj h
    exact ⟨dir, rfl⟩

/-- **A process finds what the joined path leads to**: a relative path leads from the working
directory to where it leads when it is joined to the path of that directory. -/
theorem lookUpFrom_of_join {p q : Path} {found : List String × FileTree}
    (hhere : t.enter p = .ok here) (hq : q.text ≠ "") (h : t.lookUp (p.join q) = .ok found) :
    t.lookUpFrom here q = .ok found := by
  obtain ⟨names, node⟩ := found
  obtain ⟨htakes, ⟨left, hleads⟩, hnode⟩ := lookUp_eq_ok_iff.mp h
  refine lookUpFrom_eq_ok_iff.mpr ⟨htakes.of_join hq, ?_, hnode⟩
  cases habsolute : q.isAbsolute with
  | true =>
    rw [Path.join_of_isAbsolute habsolute] at hleads
    exact ⟨left, by simpa using hleads⟩
  | false =>
    obtain ⟨dir, hdir⟩ := exists_of_enter hhere
    obtain ⟨hp, ⟨_, hdir⟩, -⟩ := lookUp_eq_ok_iff.mp hdir
    obtain ⟨front, hjoin, hfront⟩ := Path.exists_pieces_join habsolute hp.ne_empty
    rw [hjoin] at hleads
    obtain ⟨links', middle, hfirst, hsecond⟩ := hleads.split
    -- the slash at the end of `p`, if there is one, leads nowhere else
    have hmiddle : middle = here := by
      rcases hfront with hfront | hfront
      · exact hfirst.names_eq (hfront ▸ hdir)
      · obtain ⟨_, middle', hdir, hlast⟩ := (hfront ▸ hdir : Leads t _ _ (front ++ [[]]) _ _).split
        cases hlast.of_blank_cons (.inl rfl)
        exact hfirst.names_eq hdir
    have hmore := hsecond.more_links (maxLinks - links')
    rw [Nat.add_sub_cancel' hfirst.left_le, hmiddle] at hmore
    exact ⟨_, by simpa using hmore⟩

/-- A `.` in front of a path makes no difference to a process. -/
lemma lookUpFrom_of_current {q : Path} {found : List String × FileTree} (hq : q.text ≠ "")
    (habsolute : q.isAbsolute = false) (h : t.lookUpFrom here ((Path.mk ".").join q) = .ok found) :
    t.lookUpFrom here q = .ok found := by
  obtain ⟨names, node⟩ := found
  obtain ⟨htakes, ⟨left, hleads⟩, hnode⟩ := lookUpFrom_eq_ok_iff.mp h
  refine lookUpFrom_eq_ok_iff.mpr ⟨htakes.of_join hq, ⟨left, ?_⟩, hnode⟩
  have hpieces : ((Path.mk ".").join q).pieces = ['.'] :: q.pieces := by
    have hlead : (Path.mk ".").lead.toList = ['.', '/'] := by decide
    rw [Path.pieces, Path.text_join habsolute, String.toList_append, hlead]
    exact Text.fields_append_sep '/' ['.'] q.text.toList
  have hdot : (Path.mk ".").isAbsolute = false := by decide
  rw [hpieces, Path.isAbsolute_join, habsolute, hdot] at hleads
  rw [habsolute]
  exact hleads.of_blank_cons (.inr rfl)

end LintChain.FileTree

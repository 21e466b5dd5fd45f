import LintChain.Discovery
import LintChain.Proofs.Resolution
import LintChain.Proofs.Shelf
import Mathlib.Logic.Relation

/-!
The normal form of a path. Its text is made of the solid pieces of the path, one slash between each
two, below the root if the path is absolute; so the form is neat, and it is the form of exactly the
spellings that blank pieces set apart. What patterns are asked about is always in normal form.
-/

namespace LintChain

/-! ### Pieces that name steps -/

namespace Path

open Component (IsStep)
open FileTree (IsBlank)

variable {p q : Path} {c : Component} {cs : List Component} {piece : List Char}

/-- The pieces of a path that name a step. -/
def solids (p : Path) : List (List Char) := p.pieces.filter (¬ IsBlank ·)

/-- The steps of a path below the root, or all of them if it is relative. -/
def below (p : Path) : List Component := p.pieces.filterMap Component.ofPiece?

lemma isStep_of_mem_below (h : c ∈ p.below) : IsStep c := isStep_of_mem_pieces h

lemma mem_solids : piece ∈ p.solids ↔ piece ∈ p.pieces ∧ ¬ IsBlank piece := by
  simp [solids]

lemma solid_of_mem_solids (h : piece ∈ p.solids) :
    piece ≠ [] ∧ piece ≠ ['.'] ∧ '/' ∉ piece := by
  obtain ⟨hmem, hblank⟩ := mem_solids.mp h
  obtain ⟨hempty, hdot⟩ := not_or.mp hblank
  exact ⟨hempty, hdot, Text.notMem_of_mem_fields hmem⟩

/-- **The steps below are spelled by the solid pieces.** -/
lemma map_text_below (p : Path) : p.below.map (·.text.toList) = p.solids := by
  rw [below, solids]
  induction p.pieces with
  | nil => rfl
  | cons piece ps ih =>
    by_cases hblank : IsBlank piece
    · have hnone : Component.ofPiece? piece = none := if_pos hblank
      rw [List.filterMap_cons_none hnone, List.filter_cons_of_neg (by simpa using hblank), ih]
    · have hsome : ∃ c, Component.ofPiece? piece = some c ∧ c.text.toList = piece := by
        have hsolid : ¬ (piece = [] ∨ piece = ['.']) := hblank
        unfold Component.ofPiece?
        rw [if_neg hsolid]
        split
        next hparent => exact ⟨_, rfl, hparent.symm⟩
        next => exact ⟨_, rfl, String.toList_ofList⟩
      obtain ⟨c, hc, htext⟩ := hsome
      rw [List.filterMap_cons_some hc, List.filter_cons_of_pos (by simpa using hblank),
        List.map_cons, htext, ih]

/-! ### The text of steps that are put together -/

lemma text_ne_of_isStep (h : IsStep c) : c.text ≠ "" := by
  rcases h with rfl | ⟨text, hname, rfl⟩
  · decide
  · exact hname.ne_empty

lemma lead_of_isStep (h : IsStep c) : (Path.mk c.text).lead = c.text ++ "/" := by
  have hempty := text_ne_of_isStep h
  have hslash : (Path.mk c.text).endsWithSlash = false := by
    rw [endsWithSlash, decide_eq_false_iff_not]
    exact fun hlast => Component.no_slash_text h (List.mem_of_getLast? hlast)
  simp [lead, hempty, hslash]

/-- **Steps below a path** are written behind it with one slash between each two. -/
lemma toList_extend (p : Path) (h : ∀ c ∈ cs, IsStep c) (hne : cs ≠ []) :
    (p.extend cs).text.toList =
      p.lead.toList ++ Text.unfields '/' (cs.map (·.text.toList)) := by
  induction cs generalizing p with
  | nil => exact absurd rfl hne
  | cons c cs ih =>
    obtain ⟨hc, hcs⟩ := List.forall_mem_cons.mp h
    have habsolute := isAbsolute_of_isStep hc
    rw [extend_cons]
    cases cs with
    | nil => simp [text_join habsolute, Text.unfields]
    | cons d cs =>
      rw [ih _ hcs (List.cons_ne_nil _ _), lead_join habsolute, lead_of_isStep hc]
      simp [Text.unfields]

/-! ### The text of the normal form -/

/-- **The normal form is made of the solid pieces**, and is `.` where there are none. -/
lemma toList_normalize (p : Path) : p.normalize.text.toList =
    if p.isAbsolute then '/' :: Text.unfields '/' p.solids
    else if p.solids = [] then ['.'] else Text.unfields '/' p.solids := by
  have hsteps : ∀ c ∈ p.below, IsStep c := fun _ => isStep_of_mem_below
  have hsolids := map_text_below p
  rw [normalize_eq, ofComponents_steps, ← below]
  rcases hbelow : p.below with _ | ⟨c, cs⟩
  · have hnone : p.solids = [] := by rw [← hsolids, hbelow, List.map_nil]
    rw [hnone]
    cases p.isAbsolute <;> rfl
  · rw [hbelow] at hsteps hsolids
    have hsome : p.solids ≠ [] := by simp [← hsolids]
    have htext (front : Path) : (front.extend (c :: cs)).text.toList =
        front.lead.toList ++ Text.unfields '/' p.solids := by
      rw [toList_extend front hsteps (List.cons_ne_nil _ _), hsolids]
    have hne (front : Path) : (front.extend (c :: cs)).text ≠ "" := by
      intro hempty
      have hnothing := steps_of_empty hempty
      rw [steps_extend hsteps] at hnothing
      exact List.cons_ne_nil _ _ (List.append_eq_nil_iff.mp hnothing).2
    rw [if_neg (hne _), htext]
    cases p.isAbsolute
    · have hlead : (Path.mk "").lead = "" := by decide
      simp [hlead, hsome]
    · have hlead : (Path.mk "/").lead = "/" := by decide
      simp [hlead]

lemma fields_unfields_solids (h : p.solids ≠ []) :
    Text.fields '/' (Text.unfields '/' p.solids) = p.solids := by
  obtain ⟨piece, rest, hsolids⟩ := List.exists_cons_of_ne_nil h
  rw [hsolids, Text.fields_unfields fun piece hpiece =>
    (solid_of_mem_solids (hsolids ▸ hpiece)).2.2]

lemma pieces_normalize (p : Path) : p.normalize.pieces =
    if p.isAbsolute then [] :: (if p.solids = [] then [[]] else p.solids)
    else if p.solids = [] then [['.']] else p.solids := by
  rw [pieces, toList_normalize]
  by_cases hnone : p.solids = []
  · rw [hnone]
    cases p.isAbsolute <;> rfl
  · have hfields := fields_unfields_solids hnone
    cases p.isAbsolute <;> simp [hnone, hfields]

/-- **The components of the normal form** are the steps, or a single `.` where there are none. -/
lemma components_normalize (p : Path) :
    p.normalize.components = if p.steps = [] then [.current] else p.steps := by
  rw [components_eq, steps_normalize, pieces_normalize, steps_eq, ← below]
  have hbelow : p.below = [] ↔ p.solids = [] := by rw [← map_text_below, List.map_eq_nil_iff]
  cases habsolute : p.isAbsolute with
  | true => simp
  | false =>
    by_cases hnone : p.solids = []
    · simp [hnone, hbelow.mpr hnone]
    · have hsome := hbelow.not.mpr hnone
      have hhead : p.solids.head? ≠ some ['.'] := fun hhead =>
        (solid_of_mem_solids (List.mem_of_mem_head? hhead)).2.1 rfl
      simp [hnone, hsome, hhead]

lemma normalize_normalize (p : Path) : p.normalize.normalize = p.normalize :=
  normalize_congr (steps_normalize p)

lemma normalize_join (p r : Path) : (p.normalize.join r).normalize = (p.join r).normalize :=
  normalize_congr (by rw [steps_join, steps_join, steps_normalize])

/-! ### Neat texts -/

/-- A text with nothing in it that could be left out. -/
structure Neat (p : Path) : Prop where
  ne_empty : p.text ≠ ""
  no_current : p.text = "." ∨ ['.'] ∉ p.pieces
  no_repeat : ¬ ['/', '/'] <:+: p.text.toList
  no_last : p.text = "/" ∨ p.endsWithSlash = false

/-- Two slashes in a row have an empty piece between them, with pieces on both sides. -/
lemma mem_of_repeat (h : ['/', '/'] <:+: p.text.toList) : [] ∈ p.pieces.tail.dropLast := by
  obtain ⟨front, back, htext⟩ := h
  have hpieces : p.pieces = Text.fields '/' front ++ [] :: Text.fields '/' back := by
    rw [pieces, ← htext, List.append_assoc, List.cons_append, Text.fields_append_sep,
      List.singleton_append, Text.fields_cons_sep]
  obtain ⟨piece, rest, hfront⟩ := List.exists_cons_of_ne_nil (Text.fields_ne_nil '/' front)
  rw [hpieces, hfront, List.cons_append, List.tail_cons,
    List.dropLast_append_of_ne_nil (List.cons_ne_nil _ _),
    List.dropLast_cons_of_ne_nil (Text.fields_ne_nil '/' back)]
  exact List.mem_append_right _ List.mem_cons_self

/-- Behind a slash at the end there is an empty piece. -/
lemma getLast?_of_endsWithSlash (h : p.endsWithSlash) : p.pieces.getLast? = some [] := by
  obtain ⟨front, hfront⟩ := List.getLast?_eq_some_iff.mp (by simpa [endsWithSlash] using h)
  rw [pieces, hfront, Text.fields_append_sep, Text.fields_nil, List.getLast?_concat]

lemma normalize_cases (p : Path) : p.normalize = ⟨"/"⟩ ∨ p.normalize = ⟨"."⟩ ∨
    p.solids ≠ [] ∧ p.normalize.pieces = (if p.isAbsolute then [[]] else []) ++ p.solids := by
  by_cases hnone : p.solids = []
  · have htext := toList_normalize p
    rw [hnone] at htext
    cases habsolute : p.isAbsolute with
    | true =>
      refine .inl (ext_text (String.toList_inj.mp ?_))
      simpa [habsolute, Text.unfields] using htext
    | false =>
      refine .inr (.inl (ext_text (String.toList_inj.mp ?_)))
      simpa [habsolute] using htext
  · refine .inr (.inr ⟨hnone, ?_⟩)
    rw [pieces_normalize, if_neg hnone, if_neg hnone]
    cases p.isAbsolute <;> rfl

lemma neat_normalize (p : Path) : p.normalize.Neat := by
  rcases normalize_cases p with hroot | hdot | ⟨hsome, hpieces⟩
  · rw [hroot]
    exact ⟨by decide, .inr (by decide), by decide, .inl rfl⟩
  · rw [hdot]
    exact ⟨by decide, .inl rfl, by decide, .inr (by decide)⟩
  · have hsolid : ∀ piece ∈ p.solids, piece ≠ [] ∧ piece ≠ ['.'] := fun piece hpiece =>
      (solid_of_mem_solids hpiece).imp_right And.left
    refine ⟨text_normalize_ne p, .inr fun hmem => ?_, fun hrepeat => ?_, .inr ?_⟩
    · -- an empty piece in front, if there is one, is no `.`
      rw [hpieces, List.mem_append] at hmem
      rcases hmem with hfront | hmem
      · split_ifs at hfront <;> simp at hfront
      · exact (hsolid _ hmem).2 rfl
    · have hmem := List.dropLast_subset _ (mem_of_repeat hrepeat)
      rw [hpieces] at hmem
      cases habsolute : p.isAbsolute <;> rw [habsolute] at hmem
      · exact (hsolid _ (List.mem_of_mem_tail hmem)).1 rfl
      · exact (hsolid _ hmem).1 rfl
    · rw [Bool.eq_false_iff]
      intro hslash
      have hlast := getLast?_of_endsWithSlash hslash
      rw [hpieces, List.getLast?_append_of_ne_nil _ hsome] at hlast
      exact (hsolid _ (List.mem_of_getLast? hlast)).1 rfl

/-! ### Spellings -/

end Path

/-- Two spellings that one blank piece sets apart: a slash that stands twice or at the end, or a
`.` in front, between two slashes or at the end. -/
inductive Respells : List Char → List Char → Prop
  | slash (front back : List Char) : Respells (front ++ '/' :: back) (front ++ '/' :: '/' :: back)
  | lastSlash {text : List Char} (h : text ≠ []) : Respells text (text ++ ['/'])
  | dot (front back : List Char) :
      Respells (front ++ '/' :: back) (front ++ '/' :: '.' :: '/' :: back)
  | lastDot (front : List Char) : Respells (front ++ ['/']) (front ++ ['/', '.'])
  | firstDot {text : List Char} (h : text.head? ≠ some '/') : Respells text ('.' :: '/' :: text)

namespace Respells

open FileTree (IsBlank)
open Relation (EqvGen)

variable {front back xs ys piece : List Char} {p q : Path}

/-! A blank piece behind a text, and one between two slashes. -/

lemma eqvGen_last (hne : front ≠ []) (h : IsBlank piece) :
    EqvGen Respells (front ++ '/' :: piece) front := by
  have hslash : EqvGen Respells (front ++ ['/']) front := .symm _ _ (.rel _ _ (.lastSlash hne))
  rcases h with rfl | rfl
  · exact hslash
  · exact .trans _ _ _ (.symm _ _ (.rel _ _ (.lastDot front))) hslash

lemma eqvGen_between (front back : List Char) (h : IsBlank piece) :
    EqvGen Respells (front ++ '/' :: (piece ++ '/' :: back)) (front ++ '/' :: back) := by
  rcases h with rfl | rfl
  · exact .symm _ _ (.rel _ _ (.slash front back))
  · exact .symm _ _ (.rel _ _ (.dot front back))

/-- **Blank pieces may be left out** behind a text. -/
lemma eqvGen_thin (ps : List (List Char)) (hne : front ≠ []) :
    EqvGen Respells (front ++ ps.flatMap ('/' :: ·))
      (front ++ (ps.filter (¬ IsBlank ·)).flatMap ('/' :: ·)) := by
  induction ps generalizing front with
  | nil => exact .refl _
  | cons piece rest ih =>
    by_cases hblank : IsBlank piece
    · rw [List.filter_cons_of_neg (by simpa using hblank)]
      refine .trans _ _ _ ?_ (ih hne)
      cases rest with
      | nil => simpa using eqvGen_last hne hblank
      | cons next rest =>
        simpa using eqvGen_between front (next ++ rest.flatMap ('/' :: ·)) hblank
    · rw [List.filter_cons_of_pos (by simpa using hblank), List.flatMap_cons, List.flatMap_cons,
        ← List.append_assoc, ← List.append_assoc]
      exact ih (by simp)

/-- Behind a root blank pieces may be left out as well: a second slash in front makes the root a
text with pieces behind it. -/
lemma eqvGen_absolute (next : List Char) (rest : List (List Char)) :
    EqvGen Respells ((next :: rest).flatMap ('/' :: ·))
      ('/' :: Text.unfields '/' ((next :: rest).filter (¬ IsBlank ·))) := by
  refine .trans _ _ _ (.rel _ _ (.slash [] (next ++ rest.flatMap ('/' :: ·)))) ?_
  refine .trans _ _ _ (eqvGen_thin (next :: rest) (List.cons_ne_nil '/' [])) ?_
  cases (next :: rest).filter (¬ IsBlank ·) with
  | nil => exact .refl _
  | cons piece more =>
    rw [Text.unfields_cons]
    exact .symm _ _ (.rel _ _ (.slash [] (piece ++ more.flatMap ('/' :: ·))))

/-- Where the first piece of a relative path is a `.`, it may be left out if a solid one comes
behind it. -/
lemma eqvGen_relative {first : List Char} {rest solids : List (List Char)} (hempty : first ≠ [])
    (hsolids : (first :: rest).filter (¬ IsBlank ·) = solids)
    (hslash : ∀ piece ∈ rest, '/' ∉ piece) :
    EqvGen Respells (first ++ rest.flatMap ('/' :: ·))
      (if solids = [] then ['.'] else Text.unfields '/' solids) := by
  refine .trans _ _ _ (eqvGen_thin rest hempty) ?_
  subst hsolids
  by_cases hdot : first = ['.']
  · rw [hdot, List.filter_cons_of_neg (by decide)]
    cases hsome : rest.filter (¬ IsBlank ·) with
    | nil => exact .refl _
    | cons piece more =>
      obtain ⟨hmem, hblank⟩ : piece ∈ rest ∧ ¬ IsBlank piece := by
        simpa using (hsome ▸ List.mem_cons_self : piece ∈ rest.filter (¬ IsBlank ·))
      rw [if_neg (List.cons_ne_nil _ _), Text.unfields_cons]
      refine .symm _ _ (.rel _ _ (.firstDot ?_))
      rw [List.head?_append_of_ne_nil _ (not_or.mp hblank).1]
      exact fun hhead => hslash piece hmem (List.mem_of_mem_head? hhead)
  · rw [List.filter_cons_of_pos (by simp [IsBlank, hempty, hdot]),
      if_neg (List.cons_ne_nil _ _), Text.unfields_cons]
    exact .refl _

/-- **Every path is a respelling of its normal form.** -/
lemma eqvGen_normalize (p : Path) : EqvGen Respells p.text.toList p.normalize.text.toList := by
  obtain ⟨first, rest, hfields⟩ :=
    List.exists_cons_of_ne_nil (Text.fields_ne_nil '/' p.text.toList)
  have htext : p.text.toList = first ++ rest.flatMap ('/' :: ·) := by
    rw [← Text.unfields_fields '/' p.text.toList, hfields, Text.unfields_cons]
  have hsolids : (first :: rest).filter (¬ IsBlank ·) = p.solids := (congrArg _ hfields).symm
  have hslash : ∀ piece ∈ first :: rest, '/' ∉ piece := fun piece hpiece =>
    Text.notMem_of_mem_fields (hfields ▸ hpiece)
  rw [p.toList_normalize]
  rcases first with _ | ⟨c, first⟩
  · rw [List.filter_cons_of_neg (by decide)] at hsolids
    rw [htext, List.nil_append, ← hsolids]
    cases rest with
    | nil =>
      -- the empty path: `./` may be put in front of nothing, and its slash may be left out
      have habsolute : p.isAbsolute = false := by simp [Path.isAbsolute, htext]
      rw [habsolute]
      exact .trans _ _ _ (.rel _ _ (.firstDot (by simp)))
        (.symm _ _ (.rel _ _ (.lastSlash (List.cons_ne_nil '.' []))))
    | cons next rest =>
      have habsolute : p.isAbsolute = true := by simp [Path.isAbsolute, htext]
      rw [habsolute, if_pos rfl]
      exact eqvGen_absolute next rest
  · have hc : c ≠ '/' := fun hc => hslash _ List.mem_cons_self (hc ▸ List.mem_cons_self)
    have habsolute : p.isAbsolute = false := by simp [Path.isAbsolute, htext, hc]
    rw [htext, habsolute, if_neg Bool.false_ne_true]
    exact eqvGen_relative (List.cons_ne_nil _ _) hsolids fun piece hpiece =>
      hslash piece (List.mem_cons_of_mem _ hpiece)

/-! ### What respelling keeps -/

/-- The steps that a text names below the root. -/
def below (text : List Char) : List Component := (Path.mk (String.ofList text)).below

lemma below_append (front back : List Char) :
    below (front ++ '/' :: back) = below front ++ below back := by
  simp only [below, Path.below, Path.pieces, String.toList_ofList]
  rw [Text.fields_append_sep, List.filterMap_append]

lemma below_blank (h : IsBlank piece) : below piece = [] := by
  rcases h with rfl | rfl <;> decide

lemma steps_eq (h : Respells xs ys) :
    (Path.mk (String.ofList xs)).steps = (Path.mk (String.ofList ys)).steps := by
  have habsolute : (Path.mk (String.ofList xs)).isAbsolute =
      (Path.mk (String.ofList ys)).isAbsolute := by
    cases h with
    | slash front | dot front | lastDot front => cases front <;> simp [Path.isAbsolute]
    | lastSlash h =>
      obtain ⟨c, xs, rfl⟩ := List.exists_cons_of_ne_nil h
      simp [Path.isAbsolute]
    | firstDot h => simpa [Path.isAbsolute] using h
  have hempty : below [] = [] := below_blank (.inl rfl)
  have hdot : below ['.'] = [] := below_blank (.inr rfl)
  have hbelow : below xs = below ys := by
    cases h with
    | slash front back =>
      rw [below_append, below_append, ← List.nil_append ('/' :: back), below_append, hempty]
      rfl
    | lastSlash => rw [below_append, hempty, List.append_nil]
    | dot front back =>
      rw [below_append, below_append, ← List.singleton_append, below_append, hdot]
      rfl
    | lastDot front => rw [below_append, below_append, hempty, hdot]
    | firstDot =>
      rw [← List.singleton_append, below_append, hdot]
      rfl
  rw [Path.steps_eq, Path.steps_eq, habsolute]
  exact congrArg _ hbelow

lemma steps_eq_of_eqvGen (h : EqvGen Respells xs ys) :
    (Path.mk (String.ofList xs)).steps = (Path.mk (String.ofList ys)).steps := by
  induction h with
  | rel _ _ h => exact h.steps_eq
  | refl => rfl
  | symm _ _ _ ih => exact ih.symm
  | trans _ _ _ _ _ ih ih' => exact ih.trans ih'

/-- **The normal form is the same for respellings, and for no other paths.** -/
lemma eqvGen_iff : EqvGen Respells p.text.toList q.text.toList ↔ p.normalize = q.normalize := by
  constructor
  · intro h
    have hsteps := steps_eq_of_eqvGen h
    rw [String.ofList_toList, String.ofList_toList] at hsteps
    exact Path.normalize_congr hsteps
  · intro h
    have hp := eqvGen_normalize p
    rw [h] at hp
    exact .trans _ _ _ hp (.symm _ _ (eqvGen_normalize q))

end Respells

/-! ### What patterns are asked about -/

namespace Discovery

variable {σ : Type} {host : Host σ} {state : σ} {cwd p q : Path} {target : Target}

/-- The targets of an argument depend on its normal form alone. -/
lemma fst_candidates_congr (h : p.normalize = q.normalize) :
    (candidates host state cwd p).1 = (candidates host state cwd q).1 := by
  unfold candidates
  dsimp only
  rw [h]
  split <;> rfl

lemma neat_of_targetBelow? {path absolute : Path} {names : List String}
    (h : targetBelow? path absolute names = some target) : target.path.Neat := by
  rw [targetBelow?] at h
  obtain ⟨below, -, rfl⟩ := Option.map_eq_some_iff.mp h
  dsimp only
  exact Path.neat_normalize _

lemma neat_of_mem_candidates (h : target ∈ (candidates host state cwd p).1) :
    target.path.Neat := by
  unfold candidates at h
  dsimp only at h
  split at h
  next => cases h
  next => cases h
  next =>
    obtain rfl := List.mem_singleton.mp h
    exact Path.neat_normalize p
  next =>
    obtain ⟨⟨names, _ | reason⟩, -, htarget⟩ := List.mem_filterMap.mp h
    · exact neat_of_targetBelow? htarget
    · cases htarget

end Discovery

namespace Path

open Relation (EqvGen)

/-- **Normal forms.** Normalising twice is normalising once, also around a join; the form is
absolute where the path is, it has the path's components without `.`, and its text is neat. Two
paths have one form exactly if they are respellings of each other, and then patterns are asked about
the same texts for both of them, all of which are neat. -/
theorem normal_form (p : Path) :
    p.normalize.normalize = p.normalize ∧
    (∀ r : Path, (p.normalize.join r).normalize = (p.join r).normalize) ∧
    p.normalize.isAbsolute = p.isAbsolute ∧
    p.normalize.components =
      (let kept := p.components.filter (· ≠ .current); if kept = [] then [.current] else kept) ∧
    p.normalize.Neat ∧
    (∀ q : Path, EqvGen Respells p.text.toList q.text.toList ↔ p.normalize = q.normalize) ∧
    ∀ {σ : Type} (host : Host σ) (state : σ) (cwd : Path),
      (∀ target ∈ (Discovery.candidates host state cwd p).1, target.path.Neat) ∧
      ∀ q : Path, EqvGen Respells p.text.toList q.text.toList →
        (Discovery.candidates host state cwd p).1 = (Discovery.candidates host state cwd q).1 := by
  refine ⟨normalize_normalize p, normalize_join p, isAbsolute_normalize p, components_normalize p,
    neat_normalize p, fun q => Respells.eqvGen_iff, fun host state cwd =>
      ⟨fun target => Discovery.neat_of_mem_candidates, fun q h => ?_⟩⟩
  exact Discovery.fst_candidates_congr (Respells.eqvGen_iff.mp h)

/-- Two spellings of the path of a file, one with what the other has left out. -/
theorem normal_form_shelf :
    let p : Path := ⟨"./a.py/"⟩
    let q : Path := ⟨".//a.py"⟩
    let shelf : Shelf := [("a.py", "x\n")]
    EqvGen Respells p.text.toList q.text.toList ∧ p.normalize = ⟨"a.py"⟩ ∧ p.normalize.Neat ∧
      (Discovery.candidates Shelf.host shelf Shelf.directory p).1 =
        [⟨⟨"a.py"⟩, ⟨"/shelf/a.py"⟩⟩] ∧
      (Discovery.candidates Shelf.host shelf Shelf.directory q).1 =
        [⟨⟨"a.py"⟩, ⟨"/shelf/a.py"⟩⟩] := by
  intro p q shelf
  obtain ⟨-, -, -, -, hneat, hiff, hseen⟩ := normal_form p
  have hform : p.normalize = ⟨"a.py"⟩ := by decide +kernel
  have hrespelled : EqvGen Respells p.text.toList q.text.toList := (hiff q).mpr (by decide +kernel)
  have hcandidates : (Discovery.candidates Shelf.host shelf Shelf.directory p).1 =
      [⟨⟨"a.py"⟩, ⟨"/shelf/a.py"⟩⟩] := by decide +kernel
  have hsame := (hseen Shelf.host shelf Shelf.directory).2 q hrespelled
  exact ⟨hrespelled, hform, hneat, hcandidates, hsame.symm.trans hcandidates⟩

end Path

end LintChain

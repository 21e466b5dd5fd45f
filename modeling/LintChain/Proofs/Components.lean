import LintChain.Path
import Mathlib.Data.List.Basic
import Mathlib.Tactic.Common

/-!
The steps of a path are its components but for `.`. Joining paths joins their steps, and the normal
form of a path is the one spelling that is made of its steps alone.
-/

namespace LintChain

/-! ### Texts in pieces -/

namespace Text

variable {sep : Char} {xs ys piece : List Char} {pieces : List (List Char)}

lemma fields_append_sep (sep : Char) (xs ys : List Char) :
    fields sep (xs ++ sep :: ys) = fields sep xs ++ fields sep ys := by
  induction xs with
  | nil => simp
  | cons c xs ih =>
    by_cases hc : c = sep
    · simp [hc, ih]
    · obtain ⟨piece, pieces, hxs⟩ := List.exists_cons_of_ne_nil (fields_ne_nil sep xs)
      have hih : fields sep (xs ++ sep :: ys) = piece :: (pieces ++ fields sep ys) := by
        rw [ih, hxs, List.cons_append]
      rw [List.cons_append, fields_cons_of_ne hc hih, fields_cons_of_ne hc hxs, List.cons_append]

lemma fields_of_notMem (h : sep ∉ xs) : fields sep xs = [xs] := by
  induction xs with
  | nil => rfl
  | cons c xs ih =>
    rw [List.mem_cons, not_or] at h
    exact fields_cons_of_ne (Ne.symm h.1) (ih h.2)

/-- There is no separator in a piece. -/
lemma notMem_of_mem_fields (h : piece ∈ fields sep xs) : sep ∉ piece := by
  induction xs generalizing piece with
  | nil => simp_all
  | cons c xs ih =>
    by_cases hc : c = sep
    · rw [hc, fields_cons_sep, List.mem_cons] at h
      rcases h with rfl | h
      · exact List.not_mem_nil
      · exact ih h
    · obtain ⟨first, pieces, hxs⟩ := List.exists_cons_of_ne_nil (fields_ne_nil sep xs)
      rw [fields_cons_of_ne hc hxs, List.mem_cons] at h
      rcases h with rfl | h
      · rw [List.mem_cons, not_or]
        exact ⟨Ne.symm hc, ih (hxs ▸ List.mem_cons_self)⟩
      · exact ih (hxs ▸ List.mem_cons_of_mem _ h)

lemma unfields_cons (sep : Char) (piece : List Char) (pieces : List (List Char)) :
    unfields sep (piece :: pieces) = piece ++ pieces.flatMap (sep :: ·) := by
  induction pieces generalizing piece with
  | nil => simp [unfields]
  | cons next rest ih => simp [unfields, ih]

/-- Pieces without separators are found again. -/
lemma fields_unfields (hsep : ∀ p ∈ piece :: pieces, sep ∉ p) :
    fields sep (unfields sep (piece :: pieces)) = piece :: pieces := by
  induction pieces generalizing piece with
  | nil => exact fields_of_notMem (hsep piece List.mem_cons_self)
  | cons next rest ih =>
    obtain ⟨hpiece, hrest⟩ := List.forall_mem_cons.mp hsep
    show fields sep (piece ++ sep :: unfields sep (next :: rest)) = _
    rw [fields_append_sep, fields_of_notMem hpiece, ih hrest, List.singleton_append]

end Text

/-! ### Steps -/

namespace Component

/-- A text that can be the name of an entry in a directory. -/
structure IsName (text : String) : Prop where
  ne_empty : text ≠ ""
  ne_current : text ≠ "."
  ne_parent : text ≠ ".."
  no_slash : '/' ∉ text.toList

instance (text : String) : Decidable (IsName text) :=
  decidable_of_iff (text ≠ "" ∧ text ≠ "." ∧ text ≠ ".." ∧ '/' ∉ text.toList)
    ⟨fun ⟨hempty, hcurrent, hparent, hslash⟩ => ⟨hempty, hcurrent, hparent, hslash⟩,
      fun h => ⟨h.ne_empty, h.ne_current, h.ne_parent, h.no_slash⟩⟩

/-- A component that leads on from a directory. -/
def IsStep (c : Component) : Prop := c = parent ∨ ∃ text, IsName text ∧ c = name text

lemma isStep_name {text : String} (h : IsName text) : IsStep (name text) := .inr ⟨text, h, rfl⟩

/-- Pieces between slashes stand for steps. -/
lemma isStep_of_ofPiece? {piece : List Char} {c : Component} (hslash : '/' ∉ piece)
    (h : ofPiece? piece = some c) : IsStep c := by
  unfold ofPiece? at h
  split_ifs at h with hblank hparent
  · exact .inl (Option.some.inj h).symm
  · rw [not_or] at hblank
    refine .inr ⟨String.ofList piece, ⟨?_, ?_, ?_, ?_⟩, (Option.some.inj h).symm⟩
    · simpa using hblank.1
    · simpa [← String.toList_inj] using hblank.2
    · simpa [← String.toList_inj] using hparent
    · simpa using hslash

lemma ofPiece?_text {c : Component} (h : IsStep c) : ofPiece? c.text.toList = some c := by
  rcases h with rfl | ⟨text, hname, rfl⟩
  · rfl
  · have hempty : text.toList ≠ [] := by simpa using hname.ne_empty
    have hcurrent : text.toList ≠ ['.'] := fun h => hname.ne_current (String.toList_inj.mp h)
    have hparent : text.toList ≠ ['.', '.'] := fun h => hname.ne_parent (String.toList_inj.mp h)
    simp [ofPiece?, Component.text, hempty, hcurrent, hparent]

lemma no_slash_text {c : Component} (h : IsStep c) : '/' ∉ c.text.toList := by
  rcases h with rfl | ⟨text, hname, rfl⟩
  · decide
  · exact hname.no_slash

end Component

namespace Path

open Component (IsName IsStep)

/-- The components of a path but for `.`. -/
def steps (p : Path) : List Component := p.components.filter (· ≠ .current)

variable {p q : Path} {c : Component} {cs : List Component} {names : List String}

lemma ext_text (h : p.text = q.text) : p = q := by
  cases p
  cases q
  exact congrArg Path.mk h

/-- No piece stands for `.`. -/
lemma filter_filterMap_ofPiece? (ps : List (List Char)) :
    (ps.filterMap Component.ofPiece?).filter (· ≠ .current) =
      ps.filterMap Component.ofPiece? := by
  refine List.filter_eq_self.mpr fun c hc => ?_
  obtain ⟨piece, -, hpiece⟩ := List.mem_filterMap.mp hc
  unfold Component.ofPiece? at hpiece
  split_ifs at hpiece <;> (obtain rfl := Option.some.inj hpiece; rfl)

/-- **The steps of a path** are those of its pieces, below the root if the path is absolute. -/
lemma steps_eq (p : Path) : p.steps =
    (if p.isAbsolute then [.root] else []) ++ p.pieces.filterMap Component.ofPiece? := by
  rcases htext : p.text.toList with _ | ⟨c, text⟩
  · simp [steps, components, pieces, isAbsolute, htext, Component.ofPiece?]
  by_cases hc : c = '/'
  · have hpieces : p.pieces = [] :: Text.fields '/' text := by
      rw [pieces, htext, hc, Text.fields_cons_sep]
    have hcomponents : p.components =
        .root :: (Text.fields '/' text).filterMap Component.ofPiece? := by
      simp [components, hpieces, Text.fields_ne_nil]
    have habsolute : p.isAbsolute = true := by simp [isAbsolute, htext, hc]
    rw [steps, hcomponents, List.filter_cons_of_pos (by decide), filter_filterMap_ofPiece?, hpieces,
      habsolute]
    rfl
  · obtain ⟨piece, rest, hfields⟩ := List.exists_cons_of_ne_nil (Text.fields_ne_nil '/' text)
    have hpieces : p.pieces = (c :: piece) :: rest := by
      rw [pieces, htext, Text.fields_cons_of_ne hc hfields]
    have habsolute : p.isAbsolute = false := by simp [isAbsolute, htext, hc]
    rw [habsolute, if_neg Bool.false_ne_true, List.nil_append, ← filter_filterMap_ofPiece?, steps]
    by_cases hcurrent : c :: piece = ['.']
    · -- a leading `.` is a component, but not a step
      simp [components, hpieces, hcurrent, Component.ofPiece?]
    · have hcomponents : p.components = p.pieces.filterMap Component.ofPiece? := by
        simp only [components, hpieces, hcurrent, reduceCtorEq, if_false, List.filterMap_cons]
        cases Component.ofPiece? (c :: piece) <;> rfl
      rw [hcomponents]

lemma isStep_of_mem_pieces (h : c ∈ p.pieces.filterMap Component.ofPiece?) : IsStep c := by
  obtain ⟨piece, hpiece, hc⟩ := List.mem_filterMap.mp h
  exact Component.isStep_of_ofPiece? (Text.notMem_of_mem_fields hpiece) hc

/-- A `.` in front is a component, and all others are steps. -/
lemma components_eq (p : Path) :
    p.components = (if p.pieces.head? = some ['.'] then [.current] else []) ++ p.steps := by
  obtain ⟨first, rest, hpieces⟩ := List.exists_cons_of_ne_nil (Text.fields_ne_nil '/' p.text.toList)
  have hfirst : p.pieces = first :: rest := hpieces
  have hbody := filter_filterMap_ofPiece? rest
  by_cases hdot : first = ['.']
  · have hcomponents : p.components = .current :: rest.filterMap Component.ofPiece? := by
      simp [components, hfirst, hdot]
    rw [steps, hcomponents, hfirst, hdot, List.filter_cons_of_neg (by decide), hbody]
    rfl
  · have hhead : p.pieces.head? ≠ some ['.'] := by simpa [hfirst] using hdot
    have hbelow := filter_filterMap_ofPiece? (first :: rest)
    rw [if_neg hhead, List.nil_append, steps]
    simp only [components, hfirst, hdot, if_false]
    split_ifs with hempty hrest
    · rfl
    · rw [List.filter_cons_of_pos (by decide), hbody]
    · rw [List.filterMap_cons] at hbelow
      cases hpiece : Component.ofPiece? first with
      | none => simpa [hpiece] using hbelow.symm
      | some c => simpa [hpiece] using hbelow.symm

/-! ### Joining -/

/-- The text of a path with a slash at its end, behind which a relative path is put. -/
def lead (p : Path) : String := if p.text = "" ∨ p.endsWithSlash then p.text else p.text ++ "/"

lemma isAbsolute_of_empty (h : p.text = "") : p.isAbsolute = false := by
  simp [isAbsolute, h]

lemma steps_of_empty (h : p.text = "") : p.steps = [] := by
  simp [steps, components, pieces, h]

lemma join_of_isAbsolute (h : q.isAbsolute) : p.join q = q := by
  simp [join, h]

lemma text_join (h : q.isAbsolute = false) : (p.join q).text = p.lead ++ q.text := by
  by_cases hempty : p.text = ""
  · simp [join, lead, hempty]
  · by_cases hslash : p.endsWithSlash <;> simp [join, lead, h, hempty, hslash]

/-- Nothing is put in front, or what is ends with a slash, which may be one of the path itself. -/
lemma lead_cases (p : Path) : p.text = "" ∧ p.lead = "" ∨
    ∃ front, p.lead.toList = front ++ ['/'] ∧
      (p.text.toList = front ∧ front ≠ [] ∨ p.text.toList = front ++ ['/']) := by
  by_cases hempty : p.text = ""
  · exact .inl ⟨hempty, by simp [lead, hempty]⟩
  · by_cases hslash : p.endsWithSlash
    · obtain ⟨front, hfront⟩ :=
        List.getLast?_eq_some_iff.mp (by simpa [endsWithSlash] using hslash)
      exact .inr ⟨front, by simp [lead, hslash, hfront], .inr hfront⟩
    · exact .inr ⟨p.text.toList, by simp [lead, hempty, hslash], .inl ⟨rfl, by simpa using hempty⟩⟩

@[simp] lemma isAbsolute_join : (p.join q).isAbsolute = (q.isAbsolute || p.isAbsolute) := by
  cases habsolute : q.isAbsolute with
  | true => rw [join_of_isAbsolute habsolute, habsolute, Bool.true_or]
  | false =>
    rcases p.lead_cases with ⟨hempty, hlead⟩ | ⟨front, hlead, ⟨hp, hfront⟩ | hp⟩
    · rw [isAbsolute, text_join habsolute, hlead, String.empty_append, ← isAbsolute, habsolute,
        isAbsolute_of_empty hempty, Bool.or_self]
    · obtain ⟨c, rest, rfl⟩ := List.exists_cons_of_ne_nil hfront
      simp [isAbsolute, text_join habsolute, hlead, hp]
    · simp [isAbsolute, text_join habsolute, hlead, hp, List.head?_append]

/-- The pieces of a relative path stand behind those of the path that it is joined to. -/
lemma exists_pieces_join (habsolute : q.isAbsolute = false) (hempty : p.text ≠ "") :
    ∃ front, (p.join q).pieces = front ++ q.pieces ∧
      (p.pieces = front ∨ p.pieces = front ++ [[]]) := by
  obtain ⟨hp, -⟩ | ⟨front, hlead, hp⟩ := p.lead_cases
  · exact absurd hp hempty
  · refine ⟨Text.fields '/' front, ?_, hp.imp (fun hp => ?_) fun hp => ?_⟩
    · rw [pieces, text_join habsolute, String.toList_append, hlead, List.append_assoc,
        List.singleton_append, Text.fields_append_sep, pieces]
    · rw [pieces, hp.1]
    · rw [pieces, hp, Text.fields_append_sep, Text.fields_nil]

/-- **Joining paths joins their steps.** -/
lemma steps_join (p q : Path) :
    (p.join q).steps = if q.isAbsolute then q.steps else p.steps ++ q.steps := by
  cases habsolute : q.isAbsolute with
  | true => rw [join_of_isAbsolute habsolute, if_pos rfl]
  | false =>
    rw [if_neg Bool.false_ne_true]
    by_cases hempty : p.text = ""
    · have hjoin : p.join q = q := by simp [join, hempty]
      rw [hjoin, steps_of_empty hempty, List.nil_append]
    · obtain ⟨front, hjoin, hp⟩ := exists_pieces_join habsolute hempty
      have hfront : p.pieces.filterMap Component.ofPiece? =
          front.filterMap Component.ofPiece? := by
        rcases hp with hp | hp
        · rw [hp]
        · rw [hp, List.filterMap_append]
          exact List.append_nil _
      simp [steps_eq, hjoin, habsolute, hfront]

lemma lead_join (h : q.isAbsolute = false) : (p.join q).lead = p.lead ++ q.lead := by
  by_cases hempty : q.text = ""
  · -- what is put in front of nothing ends with a slash already
    have hq : q.lead = "" := by simp [lead, hempty]
    have hjoin : (p.join q).text = p.lead := by rw [text_join h, hempty, String.append_empty]
    rw [hq, String.append_empty, lead, hjoin]
    rcases p.lead_cases with ⟨-, hlead⟩ | ⟨front, hlead, -⟩
    · simp [hlead]
    · simp [endsWithSlash, hjoin, hlead]
  · have hlist : q.text.toList ≠ [] := by simpa using hempty
    have hlast : (p.join q).endsWithSlash = q.endsWithSlash := by
      simp [endsWithSlash, text_join h, List.getLast?_append_of_ne_nil _ hlist]
    by_cases hslash : q.endsWithSlash <;>
      simp [lead, hlast, text_join h, hempty, hslash, String.append_assoc]

lemma join_assoc (a b d : Path) : (a.join b).join d = a.join (b.join d) := by
  cases hd : d.isAbsolute with
  | true => simp only [join_of_isAbsolute hd]
  | false =>
    cases hb : b.isAbsolute with
    | true => rw [join_of_isAbsolute hb, join_of_isAbsolute (q := b.join d) (by simp [hb])]
    | false =>
      have hbd : (b.join d).isAbsolute = false := by simp [hb, hd]
      refine ext_text ?_
      rw [text_join hd, lead_join hb, text_join hbd, text_join hd, String.append_assoc]

/-! ### Putting steps together -/

lemma isAbsolute_of_isStep (h : IsStep c) : (Path.mk c.text).isAbsolute = false := by
  have hslash := Component.no_slash_text h
  simp only [isAbsolute, decide_eq_false_iff_not]
  exact fun hhead => hslash (List.mem_of_mem_head? hhead)

lemma steps_of_isStep (h : IsStep c) : (Path.mk c.text).steps = [c] := by
  rw [steps_eq, isAbsolute_of_isStep h, pieces, Text.fields_of_notMem (Component.no_slash_text h)]
  simp [Component.ofPiece?_text h]

@[simp] lemma extend_nil (p : Path) : p.extend [] = p := rfl

@[simp] lemma extend_cons (p : Path) (c : Component) (cs : List Component) :
    p.extend (c :: cs) = (p.join ⟨c.text⟩).extend cs := rfl

lemma extend_append (p : Path) (cs ds : List Component) :
    p.extend (cs ++ ds) = (p.extend cs).extend ds := List.foldl_append

lemma isAbsolute_extend (h : ∀ c ∈ cs, IsStep c) : (p.extend cs).isAbsolute = p.isAbsolute := by
  induction cs generalizing p with
  | nil => rfl
  | cons c cs ih =>
    obtain ⟨hc, hcs⟩ := List.forall_mem_cons.mp h
    rw [extend_cons, ih hcs, isAbsolute_join, isAbsolute_of_isStep hc, Bool.false_or]

lemma steps_extend (h : ∀ c ∈ cs, IsStep c) : (p.extend cs).steps = p.steps ++ cs := by
  induction cs generalizing p with
  | nil => rw [extend_nil, List.append_nil]
  | cons c cs ih =>
    obtain ⟨hc, hcs⟩ := List.forall_mem_cons.mp h
    rw [extend_cons, ih hcs, steps_join, isAbsolute_of_isStep hc, if_neg Bool.false_ne_true,
      steps_of_isStep hc, List.append_assoc, List.singleton_append]

/-- Behind a path that is not empty, no piece comes to the front. -/
lemma head?_pieces_join (habsolute : q.isAbsolute = false) (hempty : p.text ≠ "") :
    (p.join q).pieces.head? = p.pieces.head? := by
  obtain ⟨front, hjoin, hp⟩ := exists_pieces_join habsolute hempty
  rcases front with _ | ⟨first, front⟩
  · -- only the pieces of the empty path are those of nothing
    have htext := Text.unfields_fields '/' p.text.toList
    rcases hp with hp | hp <;> rw [← pieces, hp] at htext <;>
      exact absurd (String.toList_eq_nil_iff.mp htext.symm) hempty
  · rw [hjoin]
    rcases hp with hp | hp <;> rw [hp] <;> rfl

lemma components_join_of_isStep (h : IsStep c) :
    (p.join ⟨c.text⟩).components = p.components ++ [c] := by
  have habsolute := isAbsolute_of_isStep h
  rw [components_eq, components_eq p, steps_join, habsolute, if_neg Bool.false_ne_true,
    steps_of_isStep h, List.append_assoc]
  by_cases hempty : p.text = ""
  · have hcurrent : c.text.toList ≠ ['.'] := by
      intro hdot
      have hpiece := Component.ofPiece?_text h
      rw [hdot] at hpiece
      cases hpiece
    have hpieces : (p.join ⟨c.text⟩).pieces = [c.text.toList] := by
      rw [join, if_pos (by simp [hempty]), pieces,
        Text.fields_of_notMem (Component.no_slash_text h)]
    have hempty' : p.pieces = [[]] := by rw [pieces, hempty]; rfl
    simp [hpieces, hcurrent, hempty']
  · rw [head?_pieces_join habsolute hempty]

/-- **The components of a path with steps below it** are its components and those steps. -/
lemma components_extend (h : ∀ c ∈ cs, IsStep c) :
    (p.extend cs).components = p.components ++ cs := by
  induction cs generalizing p with
  | nil => rw [extend_nil, List.append_nil]
  | cons c cs ih =>
    obtain ⟨hc, hcs⟩ := List.forall_mem_cons.mp h
    rw [extend_cons, ih hcs, components_join_of_isStep hc, List.append_assoc,
      List.singleton_append]

/-- The way to what was put below a path is what was put there. -/
lemma stripPrefix?_extend (h : ∀ c ∈ cs, IsStep c) :
    (p.extend cs).stripPrefix? p = some (ofComponents cs) := by
  have hbegins : p.components.isPrefixOf (p.components ++ cs) = true := by simp
  rw [stripPrefix?, components_extend h, if_pos hbegins, List.drop_left]

@[simp] lemma empty_join (p : Path) : (Path.mk "").join p = p := by
  simp [join]

/-- Adding components one by one is joining the path that they make up. -/
lemma extend_eq_join (p : Path) (h : cs ≠ []) : p.extend cs = p.join (ofComponents cs) := by
  induction cs generalizing p with
  | nil => exact absurd rfl h
  | cons c cs ih =>
    rw [ofComponents, extend_cons, extend_cons, empty_join]
    rcases eq_or_ne cs [] with rfl | hcs
    · rfl
    · rw [ih _ hcs, ih _ hcs, join_assoc]

/-- Where the steps of a path begin. -/
lemma ofComponents_steps (p : Path) : ofComponents p.steps =
    (Path.mk (if p.isAbsolute then "/" else "")).extend
      (p.pieces.filterMap Component.ofPiece?) := by
  rw [steps_eq]
  cases p.isAbsolute <;> rfl

/-- **Steps make up the path that they are of.** -/
lemma steps_ofComponents_steps (p : Path) : (ofComponents p.steps).steps = p.steps := by
  rw [ofComponents_steps, steps_extend fun _ => isStep_of_mem_pieces, steps_eq p]
  cases p.isAbsolute <;> rfl

lemma isAbsolute_ofComponents_steps (p : Path) :
    (ofComponents p.steps).isAbsolute = p.isAbsolute := by
  rw [ofComponents_steps, isAbsolute_extend fun _ => isStep_of_mem_pieces]
  cases p.isAbsolute <;> rfl

lemma isAbsolute_congr (h : p.steps = q.steps) : p.isAbsolute = q.isAbsolute := by
  rw [← isAbsolute_ofComponents_steps p, h, isAbsolute_ofComponents_steps]

/-! ### Normal forms -/

lemma normalize_eq (p : Path) : p.normalize =
    if (ofComponents p.steps).text = "" then ⟨"."⟩ else ofComponents p.steps := by
  simp [normalize, steps]

/-- **The steps alone decide** on the normal form. -/
lemma normalize_congr (h : p.steps = q.steps) : p.normalize = q.normalize := by
  rw [normalize_eq, normalize_eq, h]

@[simp] lemma steps_normalize (p : Path) : p.normalize.steps = p.steps := by
  rw [normalize_eq]
  split
  next hempty =>
    rw [← steps_ofComponents_steps p, steps_of_empty hempty]
    decide
  next => exact steps_ofComponents_steps p

@[simp] lemma isAbsolute_normalize (p : Path) : p.normalize.isAbsolute = p.isAbsolute := by
  rw [normalize_eq]
  split
  next hempty =>
    rw [← isAbsolute_ofComponents_steps p, isAbsolute_of_empty hempty]
    decide
  next => exact isAbsolute_ofComponents_steps p

lemma text_normalize_ne (p : Path) : p.normalize.text ≠ "" := by
  rw [normalize_eq]
  split
  next => decide
  next hne => exact hne

/-! ### Names -/

lemma isStep_of_mem_names (h : ∀ n ∈ names, IsName n) : ∀ c ∈ names.map .name, IsStep c := by
  intro c hc
  obtain ⟨n, hn, rfl⟩ := List.mem_map.mp hc
  exact Component.isStep_name (h n hn)

lemma steps_ofNames (h : ∀ n ∈ names, IsName n) : (ofNames names).steps = names.map .name :=
  (steps_extend (isStep_of_mem_names h)).trans (by rw [steps_of_empty rfl, List.nil_append])

lemma isAbsolute_ofNames (h : ∀ n ∈ names, IsName n) : (ofNames names).isAbsolute = false :=
  (isAbsolute_extend (isStep_of_mem_names h)).trans (isAbsolute_of_empty rfl)

/-- **The normal form of a path with names below it** is made of both, and of nothing between. -/
lemma normalize_join_ofNames (p : Path) (hne : names ≠ []) (h : ∀ n ∈ names, IsName n) :
    (p.join (ofNames names)).normalize = (ofComponents p.steps).join (ofNames names) := by
  have hjoin (q : Path) : (q.join (ofNames names)).steps = q.steps ++ names.map .name := by
    rw [steps_join, isAbsolute_ofNames h, if_neg Bool.false_ne_true, steps_ofNames h]
  have hparts : ofComponents (p.join (ofNames names)).steps =
      (ofComponents p.steps).join (ofNames names) := by
    rw [hjoin, ofComponents, extend_append, extend_eq_join _ (by simpa using hne)]
    rfl
  have htext : ((ofComponents p.steps).join (ofNames names)).text ≠ "" := by
    intro hempty
    have hnone := steps_of_empty hempty
    rw [hjoin] at hnone
    exact hne (List.map_eq_nil_iff.mp (List.append_eq_nil_iff.mp hnone).2)
  rw [normalize_eq, hparts, if_neg htext]

end Path

end LintChain

import LintChain.Proofs.Absolute
import Mathlib.Data.List.Infix

/-!
The way up from an absolute path. The directory above a path has all steps of the path but the last,
and the way ends at the root; so the directories on it have the steps in front of the path, each
time one less, and the way up from below a directory goes on as the way up from that directory.
-/

namespace LintChain

open FileTree (IsBlank)

namespace Path

variable {r p q start : Path} {c : Component} {cs ds : List Component} {piece : List Char} {n : ℕ}

/-! ### Blank pieces at the end -/

lemma trimPieces_concat_nil (keepFirst : Bool) (ps : List (List Char)) :
    trimPieces keepFirst (ps ++ [[]]) = trimPieces keepFirst ps := by
  induction ps generalizing keepFirst with
  | nil => rfl
  | cons piece ps ih => rw [List.cons_append, trimPieces, trimPieces, ih]

/-- Nothing is cut off behind a solid piece. -/
lemma trimPieces_concat (keepFirst : Bool) (ps : List (List Char)) (h : ¬ IsBlank piece) :
    trimPieces keepFirst (ps ++ [piece]) = ps ++ [piece] := by
  induction ps generalizing keepFirst with
  | nil =>
    obtain ⟨hempty, hdot⟩ := not_or.mp h
    simp [trimPieces, hempty, hdot]
  | cons first ps ih =>
    rw [List.cons_append, trimPieces, ih]
    cases ps <;> rfl

/-! ### One step up -/

/-- One of the two spellings of the root. -/
def IsRoot (r : Path) : Prop := r = ⟨"/"⟩ ∨ r = ⟨"//"⟩

/-- The pieces between the slashes in front. -/
def between (r : Path) : List (List Char) := if r.text = "//" then [[]] else []

/-- The texts of steps. -/
def texts (cs : List Component) : List (List Char) := cs.map (·.text.toList)

lemma not_isBlank_text (h : Component.IsStep c) : ¬ IsBlank c.text.toList := by
  intro hblank
  have hnone : Component.ofPiece? c.text.toList = none := if_pos hblank
  rw [Component.ofPiece?_text h] at hnone
  cases hnone

lemma toList_extend_root (hr : IsRoot r) (h : ∀ c ∈ cs, Component.IsStep c) :
    (r.extend cs).text.toList = r.text.toList ++ Text.unfields '/' (texts cs) := by
  have hlead : r.lead = r.text := by rcases hr with rfl | rfl <;> decide
  rcases eq_or_ne cs [] with rfl | hne
  · simp [texts, Text.unfields]
  · rw [toList_extend r h hne, hlead, texts]

lemma tail_pieces_extend (hr : IsRoot r) (h : ∀ c ∈ cs, Component.IsStep c) (hne : cs ≠ []) :
    (r.extend cs).pieces.tail = between r ++ texts cs := by
  have hslash : ∀ piece ∈ texts cs, '/' ∉ piece :=
    List.forall_mem_map.mpr fun c hc => Component.no_slash_text (h c hc)
  have hfields : Text.fields '/' (Text.unfields '/' (texts cs)) = texts cs := by
    obtain ⟨c, rest, rfl⟩ := List.exists_cons_of_ne_nil hne
    exact Text.fields_unfields hslash
  rw [pieces, toList_extend_root hr h]
  rcases hr with rfl | rfl <;> simp [between, hfields]

lemma parent?_of_trimPieces {kept : List (List Char)} (h : p.isAbsolute)
    (hkept : trimPieces false p.pieces.tail = kept ++ [piece]) : p.parent? =
      some ⟨"/" ++ String.ofList (Text.unfields '/' (trimPieces false kept))⟩ := by
  obtain ⟨first, rest, hcons⟩ := List.exists_cons_of_ne_nil (List.concat_ne_nil piece kept)
  have hdrop : (first :: rest).dropLast = kept := by rw [← hcons, List.dropLast_concat]
  rw [parent?, if_pos h, hkept, hcons]
  dsimp only
  rw [hdrop]

lemma parent?_root (hr : IsRoot r) : r.parent? = none := by
  rcases hr with rfl | rfl <;> decide

/-- **Above a path its last step is missing**, and above the first step there is the root. -/
lemma parent?_extend (hr : IsRoot r) (h : ∀ d ∈ cs ++ [c], Component.IsStep d) :
    (r.extend (cs ++ [c])).parent? = some (if cs = [] then ⟨"/"⟩ else r.extend cs) := by
  obtain ⟨hcs, hc⟩ := List.forall_mem_append.mp h
  have habsolute : (r.extend (cs ++ [c])).isAbsolute := by
    rw [isAbsolute_extend h]
    rcases hr with rfl | rfl <;> decide
  have hkept : trimPieces false (r.extend (cs ++ [c])).pieces.tail =
      (between r ++ texts cs) ++ [c.text.toList] := by
    rw [tail_pieces_extend hr h (by simp), texts, List.map_append, List.map_singleton,
      ← List.append_assoc, trimPieces_concat _ _ (not_isBlank_text (hc c List.mem_cons_self)),
      texts]
  rw [parent?_of_trimPieces habsolute hkept]
  rcases List.eq_nil_or_concat cs with rfl | ⟨ds, d, rfl⟩
  · rcases hr with rfl | rfl <;> rfl
  · rw [List.concat_eq_append] at hcs ⊢
    have hd : ¬ IsBlank d.text.toList := not_isBlank_text (hcs d (by simp))
    have hsome : texts (ds ++ [d]) ≠ [] := by simp [texts]
    have htrim : trimPieces false (between r ++ texts (ds ++ [d])) =
        between r ++ texts (ds ++ [d]) := by
      rw [texts, List.map_append, List.map_singleton, ← List.append_assoc,
        trimPieces_concat _ _ hd]
    rw [htrim, if_neg (by simp)]
    refine congrArg some (ext_text (String.toList_inj.mp ?_))
    rw [toList_extend_root hr hcs]
    rcases hr with rfl | rfl
    · simp [between]
    · obtain ⟨first, rest, hcons⟩ := List.exists_cons_of_ne_nil hsome
      simp [between, hcons, Text.unfields]

/-- A slash at the end makes no difference. -/
lemma parent?_join_empty (h : p.isAbsolute) : (p.join ⟨""⟩).parent? = p.parent? := by
  have hempty := text_ne_of_isAbsolute h
  rw [join_empty]
  cases hslash : p.endsWithSlash with
  | true =>
    rw [lead, if_pos (.inr hslash)]
  | false =>
    have hlead : p.lead = p.text ++ "/" := by simp [lead, hempty, hslash]
    have hpieces : (Path.mk p.lead).pieces = p.pieces ++ [[]] := by
      rw [pieces, hlead, String.toList_append]
      exact Text.fields_append_sep '/' p.text.toList []
    have habsolute : (Path.mk p.lead).isAbsolute = p.isAbsolute := by
      rw [← join_empty, isAbsolute_join]
      exact Bool.false_or _
    have htail : (p.pieces ++ [[]]).tail = p.pieces.tail ++ [[]] :=
      List.tail_append_of_ne_nil (Text.fields_ne_nil '/' _)
    rw [parent?, parent?, habsolute, if_pos h, if_pos h, hpieces, htail, trimPieces_concat_nil]

/-! ### The way up -/

/-- The directories above the one with the given steps, nearest first. -/
def above (r : Path) (cs : List Component) : List Path :=
  cs.inits.reverse.tail.map fun front => if front = [] then ⟨"/"⟩ else r.extend front

@[simp] lemma above_nil (r : Path) : above r [] = [] := rfl

lemma inits_concat (cs : List Component) (c : Component) :
    (cs ++ [c]).inits = cs.inits ++ [cs ++ [c]] := by
  simp [List.inits_append]

lemma reverse_inits (cs : List Component) : cs.inits.reverse = cs :: cs.inits.reverse.tail := by
  rcases List.eq_nil_or_concat cs with rfl | ⟨ds, d, rfl⟩
  · rfl
  · rw [List.concat_eq_append, inits_concat, List.reverse_append]
    rfl

lemma above_concat (r : Path) (cs : List Component) (c : Component) : above r (cs ++ [c]) =
    (if cs = [] then ⟨"/"⟩ else r.extend cs) :: above r cs := by
  rw [above, inits_concat, List.reverse_append, List.reverse_singleton, List.singleton_append,
    List.tail_cons, reverse_inits, List.map_cons, above]

/-- Above a path whose root is spelled with one slash each directory is its components. -/
lemma above_root (cs : List Component) : above ⟨"/"⟩ cs =
    cs.inits.reverse.tail.map fun front => .ofComponents (.root :: front) := by
  refine List.map_congr_left fun front _ => ?_
  rw [ofComponents_root]
  split_ifs with hempty
  · rw [hempty, extend_nil]
  · rfl

/-- The first of the directories on a way up may be spelled in another way. -/
lemma ancestorsWithin_of_parent? (h : p.parent? = q.parent?) (n : ℕ) :
    ancestorsWithin n p = p :: (ancestorsWithin n q).tail := by
  cases n with
  | zero => rfl
  | succ n =>
    rw [ancestorsWithin, ancestorsWithin, h]
    cases q.parent? <;> rfl

lemma ancestorsWithin_extend (hr : IsRoot r) (h : ∀ c ∈ cs, Component.IsStep c)
    (hn : cs.length ≤ n) : ancestorsWithin n (r.extend cs) = r.extend cs :: above r cs := by
  have hroot {r : Path} (hr : IsRoot r) (n : ℕ) : ancestorsWithin n r = [r] := by
    cases n with
    | zero => rfl
    | succ n => rw [ancestorsWithin, parent?_root hr]
  induction cs using List.reverseRecOn generalizing n with
  | nil => exact hroot hr n
  | append_singleton cs c ih =>
    rw [List.length_append, List.length_singleton] at hn
    obtain ⟨n, rfl⟩ : ∃ m, n = m + 1 := ⟨n - 1, by omega⟩
    rw [ancestorsWithin, parent?_extend hr h, above_concat]
    dsimp only
    split_ifs with hempty
    · rw [hroot (.inl rfl), hempty, above_nil]
    · rw [ih (fun d hd => h d (List.mem_append_left _ hd)) (by omega)]

lemma length_lead (p : Path) : p.text.length ≤ p.lead.length := by
  unfold lead
  split_ifs <;> simp

/-- Every step takes up some of the text. -/
lemma length_extend (p : Path) (h : ∀ c ∈ cs, Component.IsStep c) :
    p.text.length + cs.length ≤ (p.extend cs).text.length := by
  induction cs generalizing p with
  | nil => exact Nat.le_refl _
  | cons c cs ih =>
    obtain ⟨hc, hcs⟩ := List.forall_mem_cons.mp h
    have hlead := p.length_lead
    have htext : c.text.length ≠ 0 := by simpa using text_ne_of_isStep hc
    have hbelow := ih (p.join ⟨c.text⟩) hcs
    rw [text_join (isAbsolute_of_isStep hc), String.length_append] at hbelow
    rw [extend_cons, List.length_cons]
    dsimp only at hbelow
    omega

lemma isRoot_root (p : Path) : IsRoot p.root := p.root_cases

/-- **The way up from a path** that has been made absolute. -/
lemma ancestors_absolute (cwd : Path) (h : p.isAbsolute) :
    (cwd.absolute p).ancestors = cwd.absolute p :: above p.root p.below := by
  have hsteps : ∀ c ∈ p.below, Component.IsStep c := fun _ => isStep_of_mem_below
  have hplaced : (p.root.extend p.below).isAbsolute := by
    rw [isAbsolute_extend hsteps, isAbsolute_root]
  have hlength := length_extend p.root hsteps
  have habsolute := absolute_eq cwd (text_ne_of_isAbsolute h)
  rw [placed_of_isAbsolute cwd h] at habsolute
  obtain ⟨hparent, hlong⟩ : (cwd.absolute p).parent? = (p.root.extend p.below).parent? ∧
      p.below.length ≤ (cwd.absolute p).text.length := by
    rw [habsolute]
    split
    · have hlead := (p.root.extend p.below).length_lead
      rw [parent?_join_empty hplaced, join_empty]
      exact ⟨rfl, by dsimp only; omega⟩
    · exact ⟨rfl, by omega⟩
  rw [ancestors, ancestorsWithin_of_parent? hparent,
    ancestorsWithin_extend p.isRoot_root hsteps hlong, List.tail_cons]

/-! ### The components of the directories -/

lemma not_append_prefix (cs : List Component) (hne : ds ≠ []) : ¬ cs ++ ds <+: cs := by
  intro hbegins
  have hle := hbegins.length_le
  have hpos := List.length_pos_iff.mpr hne
  rw [List.length_append] at hle
  omega

/-- The parts in front of a list, each one longer than the next. -/
lemma pairwise_reverse_inits (cs : List Component) :
    cs.inits.reverse.Pairwise fun xs ys => ys <+: xs ∧ ¬ xs <+: ys := by
  induction cs using List.reverseRecOn with
  | nil => exact List.pairwise_singleton _ _
  | append_singleton cs c ih =>
    rw [inits_concat, List.reverse_append, List.reverse_singleton, List.singleton_append,
      List.pairwise_cons]
    refine ⟨fun xs hxs => ?_, ih⟩
    have hbegins : xs <+: cs := List.mem_inits xs cs |>.mp (List.mem_reverse.mp hxs)
    exact ⟨hbegins.trans (List.prefix_append _ _), fun hlong =>
      not_append_prefix cs (List.cons_ne_nil c []) (hlong.trans hbegins)⟩

lemma components_absolute (cwd : Path) (h : start.isAbsolute) :
    (cwd.absolute start).components = .root :: start.below := by
  have hne := text_ne_of_isAbsolute h
  have habsolute : (cwd.absolute start).isAbsolute := by
    rw [isAbsolute_congr (steps_absolute cwd hne), isAbsolute_join, h, Bool.true_or]
  rw [components_of_isAbsolute habsolute, steps_absolute cwd hne, steps_join, if_pos h,
    steps_of_isAbsolute h]

lemma components_extend_root (hr : IsRoot r) (h : ∀ c ∈ cs, Component.IsStep c) :
    (r.extend cs).components = .root :: cs := by
  have hroot : r.isAbsolute = true ∧ r.steps = [.root] := by rcases hr with rfl | rfl <;> decide
  have habsolute : (r.extend cs).isAbsolute := by rw [isAbsolute_extend h, hroot.1]
  rw [components_of_isAbsolute habsolute, steps_extend h, hroot.2, List.singleton_append]

lemma map_components_above (hr : IsRoot r) (h : ∀ c ∈ cs, Component.IsStep c) :
    (above r cs).map components = cs.inits.reverse.tail.map (.root :: ·) := by
  rw [above, List.map_map]
  refine List.map_congr_left fun front hfront => ?_
  have hbegins : front <+: cs :=
    (List.mem_inits front cs).mp (List.mem_reverse.mp (List.mem_of_mem_tail hfront))
  have hsteps : ∀ c ∈ front, Component.IsStep c := fun c hc => h c (hbegins.subset hc)
  rw [Function.comp_apply]
  split_ifs with hempty
  · rw [hempty]
    decide
  · exact components_extend_root hr hsteps

/-! ### Ways up that meet -/

lemma toList_lead (p : Path) : p.lead.toList =
    p.text.toList ++ if p.text = "" ∨ p.endsWithSlash then [] else ['/'] := by
  unfold lead
  split_ifs <;> simp

/-- A root is kept as two slashes if the second character is a slash and the third one is not. -/
lemma root_eq {rest : List Char} (h : p.text.toList = '/' :: rest) : p.root =
    if rest.head? = some '/' ∧ rest.tail.head? ≠ some '/' then ⟨"//"⟩ else ⟨"/"⟩ := by
  rw [root, h]
  rcases rest with _ | ⟨c, rest⟩
  · rfl
  · by_cases hc : c = '/'
    · by_cases hrest : rest.head? = some '/' <;> simp [hc, hrest]
    · simp [hc]

/-- A path has the root of the one that it begins with. -/
lemma root_join (h : start.isAbsolute) (hq : q.isAbsolute = false) :
    (start.join q).root = start.root := by
  obtain ⟨rest, hrest⟩ := List.head?_eq_some_iff.mp (by simpa [isAbsolute] using h)
  have hhead : q.text.toList.head? ≠ some '/' := by simpa [isAbsolute] using hq
  have hjoin : (start.join q).text.toList = '/' :: (rest ++
      ((if start.text = "" ∨ start.endsWithSlash then [] else ['/']) ++ q.text.toList)) := by
    rw [text_join hq, String.toList_append, toList_lead, hrest, List.cons_append,
      List.cons_append, List.append_assoc]
  rw [root_eq hrest, root_eq hjoin]
  -- the second and the third character are those of the start, or the relative path begins there
  rcases rest with _ | ⟨c, _ | ⟨d, rest⟩⟩
  · have hslash : start.endsWithSlash := by simp [endsWithSlash, hrest]
    simp [hslash, hhead]
  · by_cases hc : c = '/'
    · have hslash : start.endsWithSlash := by simp [endsWithSlash, hrest, hc]
      simp [hslash, hhead, hc]
    · simp [hc]
  · simp

lemma below_join (h : start.isAbsolute) (hq : q.isAbsolute = false) :
    (start.join q).below = start.below ++ q.below := by
  have hsteps := steps_join start q
  have habsolute : (start.join q).isAbsolute := by rw [isAbsolute_join, h, Bool.or_true]
  rw [steps_of_isAbsolute habsolute, if_neg (by simp [hq]), steps_of_isAbsolute h,
    steps_of_relative hq, List.cons_append] at hsteps
  exact List.tail_eq_of_cons_eq hsteps

/-- The way up from further below comes by the directory itself, and goes on from there. -/
lemma exists_above_append (r : Path) (cs : List Component) (hne : ds ≠ []) : ∃ nearer,
    above r (cs ++ ds) = nearer ++ (if cs = [] then ⟨"/"⟩ else r.extend cs) :: above r cs ∧
      ∀ d ∈ nearer, ∃ es, es ≠ [] ∧ es <+: ds ∧ d = r.extend (cs ++ es) := by
  induction ds using List.reverseRecOn with
  | nil => exact absurd rfl hne
  | append_singleton ds d ih =>
    rw [← List.append_assoc, above_concat]
    rcases eq_or_ne ds [] with rfl | hds
    · exact ⟨[], by simp, by simp⟩
    · obtain ⟨nearer, habove, hnearer⟩ := ih hds
      refine ⟨r.extend (cs ++ ds) :: nearer, ?_, ?_⟩
      · rw [if_neg (by simp [hds]), habove, List.cons_append]
      · rintro p (_ | ⟨_, hp⟩)
        · exact ⟨ds, hds, List.prefix_append _ _, rfl⟩
        · obtain ⟨es, hes, hbegins, rfl⟩ := hnearer p hp
          exact ⟨es, hes, hbegins.trans (List.prefix_append _ _), rfl⟩

/-- A slash at the end of a directory makes no difference to what is below it. -/
lemma join_absolute (cwd : Path) (h : start.isAbsolute) (q : Path) :
    (cwd.absolute start).join q = (start.root.extend start.below).join q := by
  rw [absolute_eq cwd (text_ne_of_isAbsolute h), placed_of_isAbsolute cwd h]
  split
  · rw [join_assoc, empty_join]
  · rfl

end Path

end LintChain

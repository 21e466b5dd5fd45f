import LintChain.Proofs.NormalForm

/-!
Paths that are made absolute without a look at any file. The steps of a relative path come below the
working directory and those of an absolute one below its own root, which may be spelled with two
slashes; a slash at the end stays. So the result has the steps of the path that is joined to the
working directory, and leads where that leads.
-/

namespace LintChain

namespace Path

variable {cwd p q : Path} {cs : List Component}

/-- The root of an absolute path as it is kept: with two slashes if the path begins with exactly
two. -/
def root (p : Path) : Path :=
  match p.text.toList with
  | '/' :: '/' :: rest => if rest.head? = some '/' then ⟨"/"⟩ else ⟨"//"⟩
  | _ => ⟨"/"⟩

lemma root_cases (p : Path) : p.root = ⟨"/"⟩ ∨ p.root = ⟨"//"⟩ := by
  unfold root
  split
  · split
    · exact .inl rfl
    · exact .inr rfl
  · exact .inl rfl

lemma extend_root (p : Path) (cs : List Component) : p.root.extend cs =
    match p.text.toList with
    | '/' :: '/' :: rest =>
      if rest.head? = some '/' then (Path.mk "/").extend cs else (Path.mk "//").extend cs
    | _ => (Path.mk "/").extend cs := by
  unfold root
  split
  · split <;> rfl
  · rfl

lemma isAbsolute_root (p : Path) : p.root.isAbsolute = true := by
  rcases p.root_cases with h | h <;> (rw [h]; decide)

lemma steps_root (p : Path) : p.root.steps = [.root] := by
  rcases p.root_cases with h | h <;> (rw [h]; decide)

/-- The steps of a path below what they are to be put below. -/
def placed (cwd p : Path) : Path := (if p.isAbsolute then p.root else cwd).extend p.below

lemma placed_of_isAbsolute (cwd : Path) (h : p.isAbsolute) :
    placed cwd p = p.root.extend p.below := by
  rw [placed, if_pos h]

lemma text_ne_of_isAbsolute (h : p.isAbsolute) : p.text ≠ "" := by
  intro hempty
  rw [isAbsolute_of_empty hempty] at h
  cases h

lemma steps_of_isAbsolute (h : p.isAbsolute) : p.steps = .root :: p.below := by
  rw [steps_eq, if_pos h]
  rfl

lemma steps_of_relative (h : p.isAbsolute = false) : p.steps = p.below := by
  rw [steps_eq, h]
  rfl

lemma components_of_isAbsolute (h : p.isAbsolute) : p.components = p.steps := by
  have hhead : p.pieces.head? ≠ some ['.'] := by
    obtain ⟨rest, hrest⟩ := List.head?_eq_some_iff.mp (by simpa [isAbsolute] using h)
    simp [pieces, hrest]
  rw [components_eq, if_neg hhead, List.nil_append]

lemma ofComponents_root (cs : List Component) :
    ofComponents (.root :: cs) = (Path.mk "/").extend cs := by
  rw [ofComponents, extend_cons, empty_join]
  rfl

/-- The steps of a relative path, for which a `.` in front does not count. -/
lemma tail_of_current (h : p.isAbsolute = false) :
    (if p.components.head? = some .current then p.components.tail else p.components) =
      p.below := by
  have hstep : p.below.head? ≠ some .current := by
    intro hhead
    rcases isStep_of_mem_below (List.mem_of_mem_head? hhead) with h | ⟨_, -, h⟩ <;> cases h
  rw [components_eq, steps_of_relative h]
  by_cases hdot : p.pieces.head? = some ['.']
  · rw [if_pos hdot]
    rfl
  · rw [if_neg hdot, List.nil_append, if_neg hstep]

/-- **What being made absolute is**: the steps are put in place, and a slash at the end stays. -/
lemma absolute_eq (cwd : Path) (h : p.text ≠ "") : cwd.absolute p =
    if p.endsWithSlash then (placed cwd p).join ⟨""⟩ else placed cwd p := by
  have hempty : p.text.isEmpty = false := by simpa using h
  rw [absolute, hempty, if_neg Bool.false_ne_true, placed]
  dsimp only
  cases habsolute : p.isAbsolute with
  | true =>
    rw [if_pos rfl, if_pos rfl, components_of_isAbsolute habsolute,
      steps_of_isAbsolute habsolute, ofComponents_root, List.tail_cons]
    exact congrArg (fun base => if p.endsWithSlash then join base ⟨""⟩ else base)
      (p.extend_root p.below).symm
  | false =>
    rw [if_neg Bool.false_ne_true, if_neg Bool.false_ne_true, tail_of_current habsolute]

/-! ### Neat paths -/

lemma root_of_neat (h : p.Neat) (habsolute : p.isAbsolute) : p.root = ⟨"/"⟩ := by
  obtain ⟨rest, hrest⟩ := List.head?_eq_some_iff.mp (by simpa [isAbsolute] using habsolute)
  have hhead : rest.head? ≠ some '/' := by
    intro hhead
    obtain ⟨more, rfl⟩ := List.head?_eq_some_iff.mp hhead
    exact h.no_repeat ⟨[], more, by simp [hrest]⟩
  rw [root, hrest]
  split
  next htext => simp_all
  next => rfl

/-- **A neat path is its components**, also when it has been made absolute. -/
lemma absolute_of_neat (cwd : Path) (h : p.Neat) (habsolute : p.isAbsolute) :
    cwd.absolute p = .ofComponents (.root :: p.below) := by
  rw [absolute_eq cwd h.ne_empty, placed_of_isAbsolute cwd habsolute, root_of_neat h habsolute,
    ofComponents_root]
  split
  next hslash =>
    -- only the root itself ends with a slash
    have hroot : p = ⟨"/"⟩ := ext_text (h.no_last.resolve_right (by simp [hslash]))
    rw [hroot]
    decide +kernel
  next => rfl

/-! ### Where it leads -/

lemma join_empty (p : Path) : p.join ⟨""⟩ = ⟨p.lead⟩ := by
  refine ext_text ?_
  rw [text_join (by decide), String.append_empty]

@[simp] lemma steps_join_empty (p : Path) : (p.join ⟨""⟩).steps = p.steps := by
  rw [steps_join, if_neg (by decide), steps_of_empty rfl, List.append_nil]

lemma isAbsolute_absolute (hcwd : cwd.isAbsolute) (h : p.text ≠ "") :
    (cwd.absolute p).isAbsolute := by
  have hplaced : (placed cwd p).isAbsolute := by
    rw [placed, isAbsolute_extend fun _ => isStep_of_mem_below]
    split
    · exact p.isAbsolute_root
    · exact hcwd
  rw [absolute_eq cwd h]
  split
  · rw [isAbsolute_join, hplaced, Bool.or_true]
  · exact hplaced

/-- **The steps are those of the joined path.** -/
lemma steps_absolute (cwd : Path) (h : p.text ≠ "") :
    (cwd.absolute p).steps = (cwd.join p).steps := by
  have hplaced : (placed cwd p).steps = (cwd.join p).steps := by
    rw [placed, steps_extend fun _ => isStep_of_mem_below, steps_join]
    cases habsolute : p.isAbsolute with
    | true =>
      rw [if_pos rfl, if_pos rfl, steps_root, steps_of_isAbsolute habsolute]
      rfl
    | false =>
      rw [if_neg Bool.false_ne_true, if_neg Bool.false_ne_true, steps_of_relative habsolute]
  rw [absolute_eq cwd h]
  split
  · rw [steps_join_empty, hplaced]
  · exact hplaced

end Path

end LintChain

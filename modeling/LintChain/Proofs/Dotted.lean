import LintChain.Bootstrap
import LintChain.Proofs.Components

/-!
Dotted numbers in the output of tools. What is found in a text is the first dotted number there, and
as much of it as there is. A check of the version goes by the number on a tool's output, and only
without one there by the number on its error output.
-/

namespace LintChain

namespace Version

open Unicode (isDecimalDigit)

variable {text run front back before number after skipped rest : List Char}
  {runs : List (List Char)} {c : Char}

/-! ### Runs of digits -/

/-- Digits and nothing else, of whatever scripts. -/
def IsRun (run : List Char) : Prop := run ≠ [] ∧ ∀ c ∈ run, isDecimalDigit c = true

instance (run : List Char) : Decidable (IsRun run) :=
  decidable_of_iff (run ≠ [] ∧ run.all isDecimalDigit = true) (by simp [IsRun])

/-- No digit stands at the front of a text. -/
def NoDigitFirst (text : List Char) : Prop := ∀ c ∈ text.head?, isDecimalDigit c = false

/-- A text goes on with a dot and a digit. -/
def GoesOn (text : List Char) : Prop :=
  ∃ d rest, text = '.' :: d :: rest ∧ isDecimalDigit d = true

/-- A text starts with digits, a dot and a digit. -/
def Begins (text : List Char) : Prop := ∃ run rest, text = run ++ rest ∧ IsRun run ∧ GoesOn rest

/-- Runs of digits with single dots between them, two runs at least. -/
def Dotted (number : List Char) : Prop :=
  ∃ runs, 2 ≤ runs.length ∧ (∀ run ∈ runs, IsRun run) ∧ number = Text.unfields '.' runs

lemma noDigitFirst_dropWhile (text : List Char) :
    NoDigitFirst (text.dropWhile isDecimalDigit) := by
  intro c hc
  have h := List.head?_dropWhile_not isDecimalDigit text
  rw [Option.mem_def.mp hc] at h
  exact h

lemma GoesOn.noDigitFirst (h : GoesOn text) : NoDigitFirst text := by
  obtain ⟨d, rest, rfl, -⟩ := h
  intro c hc
  obtain rfl : '.' = c := Option.some.inj hc
  decide

lemma takeWhile_append (hrun : ∀ c ∈ run, isDecimalDigit c = true) (hafter : NoDigitFirst after) :
    (run ++ after).takeWhile isDecimalDigit = run := by
  have hstop : after.takeWhile isDecimalDigit = [] := by
    cases after with
    | nil => rfl
    | cons c rest => simp [hafter c rfl]
  rw [List.takeWhile_append_of_pos hrun, hstop, List.append_nil]

lemma dropWhile_append (hrun : ∀ c ∈ run, isDecimalDigit c = true) (hafter : NoDigitFirst after) :
    (run ++ after).dropWhile isDecimalDigit = after := by
  rw [List.dropWhile_append_of_pos hrun]
  cases after with
  | nil => rfl
  | cons c rest => simp [hafter c rfl]

/-- The digits at the front of a text are all that decides whether a number begins there. -/
lemma begins_append_iff (hrun : ∀ c ∈ run, isDecimalDigit c = true) (hafter : NoDigitFirst after) :
    Begins (run ++ after) ↔ run ≠ [] ∧ GoesOn after := by
  constructor
  · rintro ⟨run', rest, heq, ⟨hne, hrun'⟩, hgoes⟩
    have htake := takeWhile_append hrun hafter
    have hdrop := dropWhile_append hrun hafter
    rw [heq, takeWhile_append hrun' hgoes.noDigitFirst] at htake
    rw [heq, dropWhile_append hrun' hgoes.noDigitFirst] at hdrop
    exact ⟨htake ▸ hne, hdrop ▸ hgoes⟩
  · rintro ⟨hne, hgoes⟩
    exact ⟨run, after, rfl, ⟨hne, hrun⟩, hgoes⟩

lemma not_begins_of_noDigitFirst (h : NoDigitFirst text) : ¬ Begins text := by
  intro hbegins
  have hfront : Begins ([] ++ text) := hbegins
  exact ((begins_append_iff (by simp) h).mp hfront).1 rfl

lemma isRun_cons_takeWhile (hc : isDecimalDigit c = true) (text : List Char) :
    IsRun (c :: text.takeWhile isDecimalDigit) :=
  ⟨List.cons_ne_nil _ _, List.forall_mem_cons.mpr ⟨hc, List.all_eq_true.mp List.all_takeWhile⟩⟩

/-! ### Groups after a run -/

lemma groups_of_not_goesOn (h : ¬ GoesOn text) : groups text = [] := by
  unfold groups
  split
  next d rest =>
    rw [if_neg]
    exact fun hd => h ⟨d, rest, rfl, hd⟩
  next => rfl

lemma groups_eq_nil_iff : groups text = [] ↔ ¬ GoesOn text := by
  refine ⟨?_, groups_of_not_goesOn⟩
  rintro hgroups ⟨d, rest, rfl, hd⟩
  simp [groups, hd] at hgroups

lemma groups_append (hrun : IsRun run) (hafter : NoDigitFirst after) :
    groups ('.' :: run ++ after) = '.' :: run ++ groups after := by
  obtain ⟨d, ds, rfl⟩ := List.exists_cons_of_ne_nil hrun.1
  obtain ⟨hd, hds⟩ := List.forall_mem_cons.mp hrun.2
  rw [List.cons_append, List.cons_append, groups, if_pos hd, takeWhile_append hds hafter,
    dropWhile_append hds hafter]

lemma noDigitFirst_flatMap (hafter : NoDigitFirst after) :
    NoDigitFirst (runs.flatMap ('.' :: ·) ++ after) := by
  cases runs with
  | nil => exact hafter
  | cons run runs =>
    intro c hc
    obtain rfl : '.' = c := Option.some.inj hc
    decide

/-- Groups are taken as long as they go on. -/
lemma groups_flatMap (hruns : ∀ run ∈ runs, IsRun run) (hafter : NoDigitFirst after)
    (hend : ¬ GoesOn after) :
    groups (runs.flatMap ('.' :: ·) ++ after) = runs.flatMap ('.' :: ·) := by
  induction runs with
  | nil => exact groups_of_not_goesOn hend
  | cons run runs ih =>
    obtain ⟨hrun, hruns⟩ := List.forall_mem_cons.mp hruns
    rw [List.flatMap_cons, List.append_assoc, groups_append hrun (noDigitFirst_flatMap hafter),
      ih hruns]

/-- What the groups are, and what stands after them. -/
lemma exists_groups (text : List Char) : ∃ runs after : List _, (∀ run ∈ runs, IsRun run) ∧
    text = runs.flatMap ('.' :: ·) ++ after ∧ groups text = runs.flatMap ('.' :: ·) ∧
    (NoDigitFirst text → NoDigitFirst after) ∧ ¬ GoesOn after := by
  induction text using groups.induct with
  | case1 d rest hd ih =>
    obtain ⟨runs, after, hruns, hrest, hgroups, hdigit, hend⟩ := ih
    refine ⟨(d :: rest.takeWhile isDecimalDigit) :: runs, after,
      List.forall_mem_cons.mpr ⟨isRun_cons_takeWhile hd rest, hruns⟩, ?_, ?_,
      fun _ => hdigit (noDigitFirst_dropWhile rest), hend⟩
    · rw [List.flatMap_cons, List.append_assoc, ← hrest]
      simp
    · rw [groups, if_pos hd, hgroups]
      simp
  | case2 d rest hd =>
    have hend : ¬ GoesOn ('.' :: d :: rest) := by
      rintro ⟨d', rest', heq, hd'⟩
      simp_all
    exact ⟨[], _, by simp, by simp, by simp [groups_of_not_goesOn hend], id, hend⟩
  | case3 text h =>
    have hend : ¬ GoesOn text := fun ⟨d, rest, heq, _⟩ => h d rest heq
    exact ⟨[], _, by simp, by simp, by simp [groups_of_not_goesOn hend], id, hend⟩

/-! ### The first number -/

/-- A dotted number stands between two texts, the first one there and as long as it can be. -/
structure IsFirst (before number after : List Char) : Prop where
  dotted : Dotted number
  first {front back : List Char} (h : before ++ number ++ after = front ++ back)
    (hback : Begins back) : before.length ≤ front.length
  not_preceded : ∀ c ∈ before.getLast?, isDecimalDigit c = false
  not_followed : NoDigitFirst after
  ended : ¬ GoesOn after

lemma dotted_append (hrun : IsRun run) (hne : runs ≠ []) (hruns : ∀ run ∈ runs, IsRun run) :
    Dotted (run ++ runs.flatMap ('.' :: ·)) := by
  refine ⟨run :: runs, ?_, List.forall_mem_cons.mpr ⟨hrun, hruns⟩,
    (Text.unfields_cons '.' run runs).symm⟩
  have := List.length_pos_iff.mpr hne
  rw [List.length_cons]
  omega

lemma Dotted.exists_runs (h : Dotted number) : ∃ run runs, IsRun run ∧ runs ≠ [] ∧
    (∀ run ∈ runs, IsRun run) ∧ number = run ++ runs.flatMap ('.' :: ·) := by
  obtain ⟨runs, hlength, hruns, rfl⟩ := h
  match runs, hlength with
  | run :: next :: rest, _ =>
    obtain ⟨hrun, hruns⟩ := List.forall_mem_cons.mp hruns
    exact ⟨run, next :: rest, hrun, by simp, hruns, Text.unfields_cons '.' run (next :: rest)⟩

lemma goesOn_flatMap (hne : runs ≠ []) (hruns : ∀ run ∈ runs, IsRun run) :
    GoesOn (runs.flatMap ('.' :: ·) ++ after) := by
  obtain ⟨run, rest, rfl⟩ := List.exists_cons_of_ne_nil hne
  obtain ⟨⟨hnil, hdigits⟩, -⟩ := List.forall_mem_cons.mp hruns
  obtain ⟨d, ds, rfl⟩ := List.exists_cons_of_ne_nil hnil
  exact ⟨d, ds ++ (rest.flatMap ('.' :: ·) ++ after), by simp, hdigits d List.mem_cons_self⟩

lemma Dotted.begins (h : Dotted number) (after : List Char) : Begins (number ++ after) := by
  obtain ⟨run, runs, hrun, hne, hruns, rfl⟩ := h.exists_runs
  exact ⟨run, _, List.append_assoc _ _ _, hrun, goesOn_flatMap hne hruns⟩

/-- A number with nothing after it that belongs to it is read off the text in one go. -/
lemma Dotted.eq_of_ended (h : Dotted number) (hafter : NoDigitFirst after) (hend : ¬ GoesOn after) :
    number = (number ++ after).takeWhile isDecimalDigit ++
      groups ((number ++ after).dropWhile isDecimalDigit) := by
  obtain ⟨run, runs, hrun, -, hruns, rfl⟩ := h.exists_runs
  have hnext : NoDigitFirst (runs.flatMap ('.' :: ·) ++ after) := noDigitFirst_flatMap hafter
  rw [List.append_assoc, takeWhile_append hrun.2 hnext, dropWhile_append hrun.2 hnext,
    groups_flatMap hruns hafter hend]

namespace IsFirst

/-- A digit before the number would have been its first one. -/
lemma of_first (hdotted : Dotted number) (hafter : NoDigitFirst after) (hend : ¬ GoesOn after)
    (hfirst : ∀ front back, before ++ number ++ after = front ++ back → Begins back →
      before.length ≤ front.length) : IsFirst before number after where
  dotted := hdotted
  first := hfirst _ _
  not_preceded := by
    intro c hc
    obtain ⟨front, rfl⟩ : ∃ front, before = front ++ [c] :=
      ⟨_, (List.dropLast_append_getLast? c hc).symm⟩
    by_contra hdigit
    obtain ⟨run, rest, hrest, hrun, hgoes⟩ := hdotted.begins after
    have hle := hfirst front (c :: number ++ after) (by simp)
      ⟨c :: run, rest, by rw [List.cons_append, hrest, List.cons_append],
        ⟨List.cons_ne_nil _ _, List.forall_mem_cons.mpr ⟨by simpa using hdigit, hrun.2⟩⟩, hgoes⟩
    simp only [List.length_append, List.length_singleton] at hle
    omega
  not_followed := hafter
  ended := hend

/-- There is one first number in a text. -/
lemma unique {before' number' after' : List Char} (h : IsFirst before number after)
    (h' : IsFirst before' number' after')
    (heq : before ++ number ++ after = before' ++ number' ++ after') : number = number' := by
  have hle := h.first (heq.trans (List.append_assoc _ _ _)) (h'.dotted.begins _)
  have hge := h'.first (heq.symm.trans (List.append_assoc _ _ _)) (h.dotted.begins _)
  rw [List.append_assoc, List.append_assoc] at heq
  obtain ⟨-, hrest⟩ := List.append_inj heq (Nat.le_antisymm hle hge)
  rw [h.dotted.eq_of_ended h.not_followed h.ended, hrest,
    ← h'.dotted.eq_of_ended h'.not_followed h'.ended]

end IsFirst

/-- No number begins before the end of `skipped`. -/
def Barren (skipped rest : List Char) : Prop :=
  ∀ front back, skipped = front ++ back → back ≠ [] → ¬ Begins (back ++ rest)

lemma barren_singleton (hc : isDecimalDigit c = false) : Barren [c] rest := by
  intro front back heq hne
  have hback : back.head? = some c := by
    rcases List.singleton_eq_append_iff.mp heq with ⟨-, rfl⟩ | ⟨-, rfl⟩
    · rfl
    · exact absurd rfl hne
  refine not_begins_of_noDigitFirst fun d hd => ?_
  rw [List.head?_append_of_ne_nil _ hne, hback] at hd
  obtain rfl : c = d := Option.some.inj hd
  exact hc

lemma barren_run (hrun : IsRun run) (hrest : NoDigitFirst rest) (hend : ¬ GoesOn rest) :
    Barren run rest := by
  rintro front back rfl hne hbegins
  have hdigits : ∀ c ∈ back, isDecimalDigit c = true := (List.forall_mem_append.mp hrun.2).2
  exact hend ((begins_append_iff hdigits hrest).mp hbegins).2

/-- Where a number begins, all of `skipped` stands before it. -/
lemma Barren.exists_front (h : Barren skipped rest) (heq : skipped ++ rest = front ++ back)
    (hback : Begins back) : ∃ front', front = skipped ++ front' ∧ rest = front' ++ back := by
  rcases List.append_eq_append_iff.mp heq with ⟨front', hfront, hrest⟩ | ⟨back', hskip, hback'⟩
  · exact ⟨front', hfront, hrest⟩
  · rcases eq_or_ne back' [] with rfl | hne
    · exact ⟨[], by simpa using hskip.symm, by simpa using hback'.symm⟩
    · exact absurd (hback' ▸ hback) (h front back' hskip hne)

lemma IsFirst.skip (h : IsFirst before number after)
    (hbarren : Barren skipped (before ++ number ++ after)) :
    IsFirst (skipped ++ before) number after := by
  refine .of_first h.dotted h.not_followed h.ended fun front back heq hback => ?_
  obtain ⟨front', rfl, hrest⟩ := hbarren.exists_front (by simpa using heq) hback
  have := h.first hrest hback
  simp only [List.length_append]
  omega

/-- What a search comes to: nothing where no number begins, and else the first number. -/
def Finds (text : List Char) : Option (List Char) → Prop
  | none => ∀ front back, text = front ++ back → ¬ Begins back
  | some number => ∃ before after, text = before ++ number ++ after ∧ IsFirst before number after

lemma Finds.skip {found? : Option (List Char)} (h : Finds rest found?)
    (hbarren : Barren skipped rest) : Finds (skipped ++ rest) found? := by
  cases found? with
  | none =>
    intro front back heq hback
    obtain ⟨front', -, hrest⟩ := hbarren.exists_front heq hback
    exact h front' back hrest hback
  | some number =>
    obtain ⟨before, after, rfl, hfirst⟩ := h
    exact ⟨skipped ++ before, after, by simp, hfirst.skip hbarren⟩

lemma findIn_of_not_goesOn (hc : isDecimalDigit c = true)
    (hend : ¬ GoesOn (rest.dropWhile isDecimalDigit)) :
    findIn (c :: rest) = findIn (rest.dropWhile isDecimalDigit) := by
  rw [findIn, if_pos hc]
  simp only [groups_of_not_goesOn hend]

lemma findIn_of_goesOn (hc : isDecimalDigit c = true)
    (hgoes : GoesOn (rest.dropWhile isDecimalDigit)) :
    findIn (c :: rest) = some (c :: rest.takeWhile isDecimalDigit ++
      groups (rest.dropWhile isDecimalDigit)) := by
  have hne : groups (rest.dropWhile isDecimalDigit) ≠ [] := by simpa [groups_eq_nil_iff] using hgoes
  obtain ⟨g, gs, hgroups⟩ := List.exists_cons_of_ne_nil hne
  rw [findIn, if_pos hc]
  simp only [hgroups]

/-- The search passes over what is no digit, and over runs that do not go on. -/
lemma finds_findIn (text : List Char) : Finds text (findIn text) := by
  induction text using findIn.induct with
  | case1 =>
    rw [findIn]
    rintro front back heq ⟨run, rest, rfl, ⟨hne, -⟩, -⟩
    simp_all
  | case2 c rest hc after hgroups ih =>
    have hend : ¬ GoesOn after := groups_eq_nil_iff.mp hgroups
    have htext : c :: rest = c :: rest.takeWhile isDecimalDigit ++ after := by simp [after]
    rw [findIn_of_not_goesOn hc hend, htext]
    exact ih.skip
      (barren_run (isRun_cons_takeWhile hc rest) (noDigitFirst_dropWhile rest) hend)
  | case3 c rest hc after g gs hgroups =>
    obtain ⟨runs, last, hruns, hafter, hgroups', hdigit, hend⟩ := exists_groups after
    have hne : runs ≠ [] := by
      rintro rfl
      simp [hgroups] at hgroups'
    have hgoes : GoesOn after := hafter ▸ goesOn_flatMap hne hruns
    rw [findIn_of_goesOn hc hgoes, hgroups']
    refine ⟨[], last, ?_, .of_first (dotted_append (isRun_cons_takeWhile hc rest) hne hruns)
      (hdigit (noDigitFirst_dropWhile rest)) hend fun _ _ _ _ => Nat.zero_le _⟩
    rw [List.nil_append, List.append_assoc, ← hafter]
    simp [after]
  | case4 c rest hc ih =>
    rw [findIn, if_neg hc]
    exact ih.skip (barren_singleton (by simpa using hc))

lemma findIn_eq_none_iff :
    findIn text = none ↔ ∀ front back, text = front ++ back → ¬ Begins back := by
  have hfinds := finds_findIn text
  cases h : findIn text with
  | none =>
    rw [h] at hfinds
    exact iff_of_true rfl hfinds
  | some number =>
    rw [h] at hfinds
    obtain ⟨before, after, htext, hfirst⟩ := hfinds
    refine iff_of_false (by simp) fun hnone => ?_
    exact hnone before _ (htext.trans (List.append_assoc _ _ _)) (hfirst.dotted.begins _)

lemma findIn_eq_some_iff : findIn text = some number ↔
    ∃ before after, text = before ++ number ++ after ∧ IsFirst before number after := by
  constructor
  · intro h
    have hfinds := finds_findIn text
    rwa [h] at hfinds
  · rintro ⟨before, after, htext, hfirst⟩
    have hfinds := finds_findIn text
    cases h : findIn text with
    | none =>
      rw [h] at hfinds
      exact absurd (hfirst.dotted.begins _)
        (hfinds before _ (htext.trans (List.append_assoc _ _ _)))
    | some number' =>
      rw [h] at hfinds
      obtain ⟨before', after', htext', hfirst'⟩ := hfinds
      rw [hfirst'.unique hfirst (htext'.symm.trans htext)]

/-! ### Texts -/

/-- Somewhere in a text stand digits, a dot and a digit. -/
def HasNumber (text : String) : Prop := ∃ front back, text.toList = front ++ back ∧ Begins back

/-- The first dotted number of a text, as much of it as there is. -/
def IsFirstIn (text number : String) : Prop :=
  ∃ before after, text.toList = before ++ number.toList ++ after ∧
    IsFirst before number.toList after

lemma find?_eq_none_iff {text : String} : find? text = none ↔ ¬ HasNumber text := by
  simp [find?, findIn_eq_none_iff, HasNumber]

lemma find?_eq_some_iff {text number : String} :
    find? text = some number ↔ IsFirstIn text number := by
  rw [find?, Option.map_eq_some_iff, IsFirstIn]
  simp only [← findIn_eq_some_iff]
  constructor
  · rintro ⟨found, hfound, rfl⟩
    rwa [String.toList_ofList]
  · intro h
    exact ⟨_, h, String.ofList_toList⟩

/-- A dotted number is the first one in itself. -/
lemma find?_of_dotted {number : String} (h : Dotted number.toList) :
    find? number = some number := by
  refine find?_eq_some_iff.mpr ⟨[], [], by simp, .of_first h ?_ ?_ fun _ _ _ _ => Nat.zero_le _⟩
  · simp [NoDigitFirst]
  · simp [GoesOn]

lemma dotted_iff_exists_find? {number : String} :
    Dotted number.toList ↔ ∃ text, find? text = some number := by
  refine ⟨fun h => ⟨number, find?_of_dotted h⟩, ?_⟩
  rintro ⟨text, h⟩
  obtain ⟨before, after, -, hfirst⟩ := find?_eq_some_iff.mp h
  exact hfirst.dotted

end Version

/-! ### The check of a version -/

namespace Bootstrap

open Version (HasNumber IsFirstIn)

variable {program : Path} {minimum version : String} {probe : Probe}

/-- The version that a probe tells: the first number on its output, or, where there is none at all,
the first one on its error output. -/
inductive Tells (probe : Probe) (version : String) : Prop
  | output (h : IsFirstIn probe.stdout version)
  | errors (hnone : ¬ HasNumber probe.stdout) (h : IsFirstIn probe.stderr version)

lemma tells_iff : Tells probe version ↔ Version.find? probe.stdout = some version ∨
    Version.find? probe.stdout = none ∧ Version.find? probe.stderr = some version := by
  rw [Version.find?_eq_some_iff, Version.find?_eq_none_iff, Version.find?_eq_some_iff]
  constructor
  · rintro (h | ⟨hnone, h⟩)
    · exact .inl h
    · exact .inr ⟨hnone, h⟩
  · rintro (h | ⟨hnone, h⟩)
    · exact .output h
    · exact .errors hnone h

lemma version?_eq_some_iff : probe.version? = some version ↔ Tells probe version := by
  rw [tells_iff, Probe.version?]
  cases Version.find? probe.stdout <;> simp

lemma version?_eq_none_iff :
    probe.version? = none ↔ ¬ HasNumber probe.stdout ∧ ¬ HasNumber probe.stderr := by
  rw [← Version.find?_eq_none_iff, ← Version.find?_eq_none_iff, Probe.version?]
  cases Version.find? probe.stdout <;> simp

lemma checkVersion_of_tells (program : Path) (minimum : String) (h : Tells probe version) :
    checkVersion program (some minimum) probe =
      if Version.isOlder version minimum then (.broken (.versionTooOld version minimum), [])
      else (.available program (some version), []) := by
  simp only [checkVersion, version?_eq_some_iff.mpr h]

lemma checkVersion_of_none (program : Path) (minimum : String)
    (h : ¬ HasNumber probe.stdout ∧ ¬ HasNumber probe.stderr) :
    checkVersion program (some minimum) probe =
      (.available program none, [.unknownVersion program]) := by
  simp only [checkVersion, version?_eq_none_iff.mpr h]

lemma checkVersion_eq_broken_iff {fault : Fault} :
    (checkVersion program (some minimum) probe).1 = .broken fault ↔
      ∃ version, Tells probe version ∧ Version.isOlder version minimum ∧
        fault = .versionTooOld version minimum := by
  cases hversion : probe.version? with
  | none =>
    rw [checkVersion_of_none program minimum (version?_eq_none_iff.mp hversion)]
    refine iff_of_false (by simp) ?_
    rintro ⟨version, htells, -⟩
    rw [version?_eq_some_iff.mpr htells] at hversion
    cases hversion
  | some found =>
    have htells := version?_eq_some_iff.mp hversion
    rw [checkVersion_of_tells program minimum htells]
    constructor
    · intro h
      split at h
      next hold =>
        exact ⟨found, htells, hold, by simpa using h.symm⟩
      next => cases h
    · rintro ⟨version, htells', hold, rfl⟩
      obtain rfl : found = version :=
        Option.some.inj (hversion.symm.trans (version?_eq_some_iff.mpr htells'))
      rw [if_pos hold]

/-- **What version a tool tells, and what becomes of it.** A text tells none just when digits, a dot
and a digit stand nowhere in it; otherwise it tells the first dotted number there, as much of it as
there is. A check goes by the number on the output, and by the one on the error output only if the
output has none at all. It refuses that number, as it is spelled, if it is older than the minimum,
accepts it otherwise, and where no number is told accepts the tool with one warning. Without a
minimum nothing is read. -/
theorem version_told :
    (∀ text, Version.find? text = none ↔ ¬ HasNumber text) ∧
    (∀ text version, Version.find? text = some version ↔ IsFirstIn text version) ∧
    (∀ (program : Path) (minimum : String) (probe : Probe),
      let checked := checkVersion program (some minimum) probe
      (∀ fault, checked.1 = .broken fault ↔ ∃ version, Tells probe version ∧
        Version.isOlder version minimum ∧ fault = .versionTooOld version minimum) ∧
      (∀ version, Tells probe version → checked =
        if Version.isOlder version minimum then (.broken (.versionTooOld version minimum), [])
        else (.available program (some version), [])) ∧
      (¬ HasNumber probe.stdout ∧ ¬ HasNumber probe.stderr →
        checked = (.available program none, [.unknownVersion program]))) ∧
    ∀ (program : Path) (probe : Probe),
      checkVersion program none probe = (.available program none, []) :=
  ⟨fun _ => Version.find?_eq_none_iff, fun _ _ => Version.find?_eq_some_iff,
    fun program minimum _ => ⟨fun _ => checkVersion_eq_broken_iff,
      fun _ => checkVersion_of_tells program minimum, checkVersion_of_none program minimum⟩,
    fun _ _ => rfl⟩

/-- A number on the output counts, though it is too old and a newer one stands after it and on the
error output; a year before it is no version. -/
theorem version_told_black :
    let probe : Probe := ⟨none, "black 2021: 21.12b0, Python 3.11", "24.1.0"⟩
    Tells probe "21.12" ∧ checkVersion ⟨"/bin/black"⟩ (some "22.1.0") probe =
      (.broken (.versionTooOld "21.12" "22.1.0"), []) := by
  intro probe
  have hfind : Version.find? probe.stdout = some "21.12" := by decide +kernel
  have htells : Tells probe "21.12" := .output ((version_told.2.1 _ _).mp hfind)
  have hold : Version.isOlder "21.12" "22.1.0" = true := by decide +kernel
  refine ⟨htells, ?_⟩
  rw [(version_told.2.2.1 ⟨"/bin/black"⟩ "22.1.0" probe).2.1 "21.12" htells, if_pos hold]

end Bootstrap

end LintChain

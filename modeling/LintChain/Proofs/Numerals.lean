import LintChain.Proofs.Dotted
import Mathlib.Data.List.GetD
import Mathlib.Data.List.Induction
import Mathlib.Data.Nat.Digits.Defs

/-!
Versions as numbers. A dotted number spells one number in each part, in digits of any script and of
any size, and versions are meant to be compared by these. A part is read right if it is written in
ASCII digits and fits into 64 bits; every other part is read as zero. So the comparison is the
numeric one for versions that are read right in all parts, and for no others.
-/

namespace LintChain

namespace Version

open Unicode (isDecimalDigit)

variable {found minimum version : String} {part : List Char} {a b front : List ℕ} {m n : ℕ}

/-! ### Numbers in order -/

/-- At the first place where two lists differ the first one is smaller, missing numbers counting as
zero. -/
def Precedes (a b : List ℕ) : Prop :=
  ∃ i, (∀ j < i, a.getD j 0 = b.getD j 0) ∧ a.getD i 0 < b.getD i 0

lemma precedes_cons : Precedes (m :: a) (n :: b) ↔ m < n ∨ m = n ∧ Precedes a b := by
  constructor
  · rintro ⟨i, hsame, hlt⟩
    cases i with
    | zero => exact .inl hlt
    | succ i =>
      exact .inr ⟨hsame 0 (Nat.succ_pos i), i, fun j hj => hsame (j + 1) (Nat.succ_lt_succ hj), hlt⟩
  · rintro (hlt | ⟨rfl, i, hsame, hlt⟩)
    · exact ⟨0, by simp, hlt⟩
    · refine ⟨i + 1, fun j hj => ?_, hlt⟩
      cases j with
      | zero => rfl
      | succ j => exact hsame j (Nat.lt_of_succ_lt_succ hj)

lemma precedes_append_left (front a b : List ℕ) :
    Precedes (front ++ a) (front ++ b) ↔ Precedes a b := by
  induction front with
  | nil => rfl
  | cons m front ih => simp [precedes_cons, ih]

lemma not_precedes_zero (a : List ℕ) : ¬ Precedes a [0] := by
  rintro ⟨i, -, hlt⟩
  cases i <;> simp at hlt

@[simp] lemma length_pad (h : a.length ≤ n) : (pad n a).length = n := by
  simp [pad, h]

/-- Zeros at the end are the zeros that are missing there. -/
lemma getD_pad (n : ℕ) (a : List ℕ) (i : ℕ) : (pad n a).getD i 0 = a.getD i 0 := by
  rw [pad]
  rcases Nat.lt_or_ge i a.length with hlt | hge
  · exact List.getD_append _ _ _ _ hlt
  · rw [List.getD_append_right _ _ _ _ hge, List.getD_eq_default _ _ hge]
    simp

lemma pad_lt_pad_iff (ha : a.length ≤ n) (hb : b.length ≤ n) :
    pad n a < pad n b ↔ Precedes a b := by
  have hget (xs : List ℕ) (i : ℕ) (hi : i < (pad n xs).length) : (pad n xs)[i] = xs.getD i 0 := by
    rw [← getD_pad n xs i, List.getD_eq_getElem _ _ hi]
  rw [List.lt_iff_exists]
  constructor
  · rintro (⟨-, hlength⟩ | ⟨i, hi, hi', hsame, hlt⟩)
    · simp [ha, hb] at hlength
    · refine ⟨i, fun j hj => ?_, ?_⟩
      · have := hsame j hj
        rwa [hget, hget] at this
      · rwa [hget, hget] at hlt
  · rintro ⟨i, hsame, hlt⟩
    have hi : i < b.length := by
      by_contra hge
      rw [List.getD_eq_default b 0 (Nat.not_lt.mp hge)] at hlt
      omega
    refine .inr ⟨i, by rw [length_pad ha]; omega, by rw [length_pad hb]; omega, fun j hj => ?_, ?_⟩
    · rw [hget, hget]
      exact hsame j hj
    · rw [hget, hget]
      exact hlt

/-- The comparison is by the numbers that are read, in order, whatever the texts are. -/
lemma isOlder_iff_parts (found minimum : String) :
    isOlder found minimum ↔ Precedes (parts found) (parts minimum) := by
  simp only [isOlder, decide_eq_true_eq]
  exact pad_lt_pad_iff (Nat.le_max_left _ _) (Nat.le_max_right _ _)

/-! ### What parts spell, and how they are read -/

/-- The value of a digit of whatever script. -/
def digit (c : Char) : ℕ := (Unicode.decimalValue? c).getD 0

/-- The number that digits spell, the ones standing last. -/
def value (part : List Char) : ℕ := Nat.ofDigits 10 (part.reverse.map digit)

/-- The texts between the dots of a version. -/
def pieces (version : String) : List (List Char) := Text.fields '.' version.toList

/-- The numbers that the parts of a version spell. -/
def values (version : String) : List ℕ := (pieces version).map value

/-- A part in ASCII digits that fits into 64 bits. -/
def Plain (part : List Char) : Prop := (∀ c ∈ part, c.isDigit = true) ∧ value part < 2 ^ 64

instance (part : List Char) : Decidable (Plain part) :=
  decidable_of_iff (part.all Char.isDigit = true ∧ value part < 2 ^ 64) (by simp [Plain])

/-- What is made of a part: zero unless it is plain. -/
def reading (part : List Char) : ℕ := if Plain part then value part else 0

/-- Every part is read as the number that it spells. -/
def Legible (version : String) : Prop := ∀ part ∈ pieces version, Plain part ∨ value part = 0

instance (version : String) : Decidable (Legible version) :=
  decidable_of_iff ((pieces version).all fun part => Plain part ∨ value part = 0)
    (by simp [Legible])

lemma toNat_of_isDigit {c : Char} (h : c.isDigit = true) : 48 ≤ c.toNat ∧ c.toNat ≤ 57 := by
  simpa [Char.isDigit, UInt32.le_iff_toNat_le] using h

lemma digit_of_isDigit {c : Char} (h : c.isDigit = true) : digit c = c.toNat - '0'.toNat := by
  have hbounds := toNat_of_isDigit h
  simp [digit, Unicode.decimalValue?, Unicode.zeros, hbounds.1, hbounds.2]

lemma value_append_singleton (part : List Char) (c : Char) :
    value (part ++ [c]) = value part * 10 + digit c := by
  simp only [value, List.reverse_append, List.reverse_singleton, List.singleton_append,
    List.map_cons, Nat.ofDigits_cons]
  omega

lemma digitsValue_eq_value (h : ∀ c ∈ part, c.isDigit = true) : digitsValue part = value part := by
  induction part using List.reverseRecOn with
  | nil => rfl
  | append_singleton part c ih =>
    obtain ⟨hpart, hc⟩ := List.forall_mem_append.mp h
    have hlast : digitsValue (part ++ [c]) = digitsValue part * 10 + (c.toNat - '0'.toNat) := by
      rw [digitsValue, List.foldl_append]
      rfl
    rw [hlast, value_append_singleton, ih hpart, digit_of_isDigit (hc c List.mem_cons_self)]

/-- Without a sign in front a part is read as its own digits. -/
lemma partValue_eq (hsign : part.head? ≠ some '+') : partValue part =
    if part ≠ [] ∧ part.all Char.isDigit ∧ digitsValue part ≤ maxPart then digitsValue part
    else 0 := by
  rw [partValue]
  rintro rest rfl
  exact hsign rfl

lemma partValue_of_isRun (h : IsRun part) : partValue part = reading part := by
  have hsign : part.head? ≠ some '+' := by
    intro hhead
    exact absurd (h.2 '+' (List.mem_of_mem_head? hhead)) (by decide)
  have hread : part ≠ [] ∧ part.all Char.isDigit ∧ digitsValue part ≤ maxPart ↔ Plain part := by
    rw [and_iff_right h.1, List.all_eq_true, Plain]
    refine and_congr_right fun hascii => ?_
    rw [digitsValue_eq_value hascii]
    exact Nat.lt_succ_iff.symm
  rw [partValue_eq hsign, reading]
  by_cases hplain : Plain part
  · rw [if_pos (hread.mpr hplain), if_pos hplain, digitsValue_eq_value hplain.1]
  · rw [if_neg (hread.not.mpr hplain), if_neg hplain]

lemma reading_eq_value (h : Plain part ∨ value part = 0) : reading part = value part := by
  rw [reading]
  split
  next => rfl
  next hplain => exact (h.resolve_left hplain).symm

lemma reading_of_not_legible (h : ¬ (Plain part ∨ value part = 0)) :
    reading part = 0 ∧ 0 < value part := by
  obtain ⟨hplain, hvalue⟩ := not_or.mp h
  exact ⟨if_neg hplain, Nat.pos_of_ne_zero hvalue⟩

/-! ### Dotted numbers -/

lemma dot_notMem (h : IsRun part) : '.' ∉ part :=
  fun hdot => absurd (h.2 '.' hdot) (by decide)

lemma pieces_unfields {runs : List (List Char)} (hne : runs ≠ []) (h : ∀ run ∈ runs, IsRun run) :
    pieces (String.ofList (Text.unfields '.' runs)) = runs := by
  obtain ⟨run, rest, rfl⟩ := List.exists_cons_of_ne_nil hne
  rw [pieces, String.toList_ofList, Text.fields_unfields fun p hp => dot_notMem (h p hp)]

/-- The parts of a dotted number are its runs of digits. -/
lemma isRun_of_mem_pieces (h : Dotted version.toList) : ∀ part ∈ pieces version, IsRun part := by
  obtain ⟨runs, hlength, hruns, htext⟩ := h
  have hne : runs ≠ [] := List.ne_nil_of_length_pos (by omega)
  have hversion : version = String.ofList (Text.unfields '.' runs) := by
    rw [← htext, String.ofList_toList]
  rwa [hversion, pieces_unfields hne hruns]

/-- Runs that are read right make up a version that is. -/
lemma exists_of_runs {runs : List (List Char)} (hlength : 2 ≤ runs.length)
    (hruns : ∀ run ∈ runs, IsRun run) (hplain : ∀ run ∈ runs, Plain run) :
    ∃ version : String, Dotted version.toList ∧ Legible version ∧
      values version = runs.map value := by
  have hne : runs ≠ [] := List.ne_nil_of_length_pos (by omega)
  have hpieces := pieces_unfields hne hruns
  refine ⟨String.ofList (Text.unfields '.' runs), ⟨runs, hlength, hruns, String.toList_ofList⟩,
    ?_, ?_⟩
  · rw [Legible, hpieces]
    exact fun run hrun => .inl (hplain run hrun)
  · rw [values, hpieces]

lemma parts_of_isRun (h : ∀ part ∈ pieces version, IsRun part) :
    parts version = (pieces version).map reading :=
  List.map_congr_left fun part hpart => partValue_of_isRun (h part hpart)

lemma map_reading_of_legible (h : Legible version) :
    (pieces version).map reading = values version :=
  List.map_congr_left fun part hpart => reading_eq_value (h part hpart)

lemma isOlder_iff_readings (hfound : Dotted found.toList) (hminimum : Dotted minimum.toList) :
    isOlder found minimum ↔
      Precedes ((pieces found).map reading) ((pieces minimum).map reading) := by
  rw [isOlder_iff_parts, parts_of_isRun (isRun_of_mem_pieces hfound),
    parts_of_isRun (isRun_of_mem_pieces hminimum)]

/-! ### Versions that are not read right -/

/-- A part that is read right and that means what is made of the given one. -/
def respelled (part : List Char) : List Char := if Plain part then part else ['0']

lemma isRun_respelled (h : IsRun part) : IsRun (respelled part) := by
  unfold respelled
  split
  · exact h
  · decide

lemma plain_respelled (part : List Char) : Plain (respelled part) := by
  unfold respelled
  split
  next hplain => exact hplain
  next => decide

lemma value_respelled (part : List Char) : value (respelled part) = reading part := by
  unfold respelled reading
  split <;> rfl

/-- The first of some parts that is not read right. -/
lemma exists_first_illegible {pieces : List (List Char)}
    (h : ¬ ∀ part ∈ pieces, Plain part ∨ value part = 0) : ∃ before bad after,
      pieces = before ++ bad :: after ∧ (∀ part ∈ before, Plain part ∨ value part = 0) ∧
        ¬ (Plain bad ∨ value bad = 0) := by
  induction pieces with
  | nil => simp at h
  | cons part rest ih =>
    by_cases hpart : Plain part ∨ value part = 0
    · rw [List.forall_mem_cons, and_iff_right hpart] at h
      obtain ⟨before, bad, after, rfl, hbefore, hbad⟩ := ih h
      exact ⟨part :: before, bad, after, rfl, List.forall_mem_cons.mpr ⟨hpart, hbefore⟩, hbad⟩
    · exact ⟨[], part, rest, rfl, by simp, hpart⟩

/-- A version with a part that is not read right is found older than one that it does not precede:
the one that agrees with it before that part, and has a one there. -/
lemma exists_misjudged (hfound : Dotted found.toList) (h : ¬ Legible found) :
    ∃ minimum : String, Dotted minimum.toList ∧ Legible minimum ∧ isOlder found minimum ∧
      ¬ Precedes (values found) (values minimum) := by
  obtain ⟨before, bad, after, hpieces, hbefore, hbad⟩ := exists_first_illegible h
  obtain ⟨hzero, hpos⟩ := reading_of_not_legible hbad
  have hbeforeRuns : ∀ part ∈ before, IsRun part := fun part hpart =>
    isRun_of_mem_pieces hfound part (hpieces ▸ List.mem_append_left _ hpart)
  have hruns : ∀ run ∈ before.map respelled ++ [['1'], ['0']], IsRun run :=
    List.forall_mem_append.mpr ⟨List.forall_mem_map.mpr fun part hpart =>
      isRun_respelled (hbeforeRuns part hpart), by decide⟩
  have hplain : ∀ run ∈ before.map respelled ++ [['1'], ['0']], Plain run :=
    List.forall_mem_append.mpr
      ⟨List.forall_mem_map.mpr fun part _ => plain_respelled part, by decide⟩
  obtain ⟨minimum, hdotted, hlegible, hspelled⟩ := exists_of_runs (by simp) hruns hplain
  have hvalues : values minimum = before.map reading ++ [1, 0] := by
    have hlast : [['1'], ['0']].map value = [1, 0] := by decide
    rw [hspelled, List.map_append, List.map_map, hlast]
    simp [value_respelled]
  refine ⟨minimum, hdotted, hlegible, ?_, ?_⟩
  · rw [isOlder_iff_readings hfound hdotted, map_reading_of_legible hlegible, hvalues, hpieces,
      List.map_append, List.map_cons, hzero, precedes_append_left, precedes_cons]
    exact .inl Nat.one_pos
  · have hfront : before.map value = before.map reading :=
      List.map_congr_left fun part hpart => (reading_eq_value (hbefore part hpart)).symm
    rw [hvalues, values, hpieces, List.map_append, List.map_cons, hfront, precedes_append_left,
      precedes_cons]
    rintro (hlt | ⟨-, hrest⟩)
    · omega
    · exact not_precedes_zero _ hrest

/-- **Versions are compared as numbers where they are read right.** For versions as they are found
in texts the comparison is by their parts in order, missing parts counting as zero, and a part
counts as the number that it spells if it is written in ASCII digits and fits into 64 bits, and else
as zero. So it is the numeric comparison if both are read right in all parts. A version that is not
is found older than some other one that it does not precede. -/
theorem older_by_readings (hfound : ∃ text, find? text = some found)
    (hminimum : ∃ text, find? text = some minimum) :
    (isOlder found minimum ↔
      Precedes ((pieces found).map reading) ((pieces minimum).map reading)) ∧
    (Legible found → Legible minimum →
      (isOlder found minimum ↔ Precedes (values found) (values minimum))) ∧
    (¬ Legible found → ∃ other, (∃ text, find? text = some other) ∧ Legible other ∧
      isOlder found other ∧ ¬ Precedes (values found) (values other)) := by
  rw [← dotted_iff_exists_find?] at hfound hminimum
  have hreadings := isOlder_iff_readings hfound hminimum
  refine ⟨hreadings, fun hlegible hlegible' => ?_, fun hillegible => ?_⟩
  · rw [hreadings, map_reading_of_legible hlegible, map_reading_of_legible hlegible']
  · obtain ⟨other, hother, hlegible, holder, hnot⟩ := exists_misjudged hfound hillegible
    exact ⟨other, dotted_iff_exists_find?.mp hother, hlegible, holder, hnot⟩

/-- Zeros in front of a part and the number of digits make no difference. -/
theorem older_by_readings_leadingZeros :
    (find? "isort 022.1" = some "022.1" ∧ Legible "022.1") ∧
    (find? "22.10.0" = some "22.10.0" ∧ Legible "22.10.0") ∧
    (isOlder "022.1" "22.10.0" ↔ Precedes (values "022.1") (values "22.10.0")) := by
  have hfound : find? "isort 022.1" = some "022.1" := by decide +kernel
  have hminimum : find? "22.10.0" = some "22.10.0" := by decide +kernel
  have hlegible : Legible "022.1" := by decide +kernel
  have hlegible' : Legible "22.10.0" := by decide +kernel
  exact ⟨⟨hfound, hlegible⟩, ⟨hminimum, hlegible'⟩,
    (older_by_readings ⟨_, hfound⟩ ⟨_, hminimum⟩).2.1 hlegible hlegible'⟩

/-- A part of 2^64 is read as zero, and so are Arabic digits: both versions are found older than
versions that are smaller. -/
theorem older_than_smaller :
    (find? "18446744073709551616.0" = some "18446744073709551616.0" ∧
      isOlder "18446744073709551616.0" "4.0.0" ∧
      ¬ Precedes (values "18446744073709551616.0") (values "4.0.0")) ∧
    find? "\u0667.\u0661" = some "\u0667.\u0661" ∧ isOlder "\u0667.\u0661" "4.0.0" ∧
      ¬ Precedes (values "\u0667.\u0661") (values "4.0.0") := by
  have hminimum : values "4.0.0" = [4, 0, 0] := by decide +kernel
  have hlarge : values "18446744073709551616.0" = [18446744073709551616, 0] := by decide +kernel
  have harabic : values "\u0667.\u0661" = [7, 1] := by decide +kernel
  refine ⟨⟨by decide +kernel, by decide +kernel, ?_⟩, by decide +kernel, by decide +kernel, ?_⟩
  · rw [hminimum, hlarge, precedes_cons]
    omega
  · rw [hminimum, harabic, precedes_cons]
    omega

end Version

end LintChain

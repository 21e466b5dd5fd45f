import LintChain.Proofs.Dotted
import LintChain.Regex.Parser
import Mathlib

/-!
Leftmost-first matching of regular expressions, by their syntax: the ways in which an expression
matches from a place are tried in order of preference, and the first place with a match decides. A
scan for dotted numbers is such a search for their pattern.
-/

namespace LintChain

namespace Regex

/-! ### Matches in order of preference -/

/-- A place in a text: the character before it, and the rest of the text. -/
structure Place where
  before : Option Char
  rest : List Char

/-- Over one character. -/
def Place.step (accepts : Char → Bool) (p : Place) : List Place :=
  match p.rest with
  | [] => []
  | c :: rest => if accepts c then [⟨some c, rest⟩] else []

/-- Over the characters of a text. -/
def Place.read : List Char → Place → List Place
  | [], p => [p]
  | c :: text, p => (p.step (· == c)).flatMap (read text)

/-- Exactly `n` rounds. -/
def rounds (f : Place → List Place) : Nat → Place → List Place
  | 0, p => [p]
  | n + 1, p => (f p).flatMap (rounds f n)

/-- Up to `n` rounds, as many as possible first if it is greedy and as few otherwise. A round that
stays at its place is the last one. -/
def upTo (f : Place → List Place) (greedy : Bool) : Nat → Place → List Place
  | 0, p => [p]
  | n + 1, p =>
    let more := (f p).flatMap fun q =>
      if q.rest.length < p.rest.length then upTo f greedy n q else [q]
    if greedy then more ++ [p] else p :: more

namespace Expr

mutual

/-- Where a match can end that starts at a place, in order of preference. -/
def ends : Expr → Place → List Place
  | empty, p => [p]
  | literal text, p => p.read text
  | oneOf s, p => p.step s.contains
  | anchor a, p => if a.holds p.before p.rest.head? then [p] else []
  | many e least most greedy, p =>
    (rounds e.ends least p).flatMap fun q =>
      upTo e.ends greedy ((most.map (· - least)).getD q.rest.length) q
  | group _ e, p => e.ends p
  | concat es, p => endsAll es p
  | alt es, p => endsAny es p

def endsAll : List Expr → Place → List Place
  | [], p => [p]
  | e :: rest, p => (e.ends p).flatMap (endsAll rest)

def endsAny : List Expr → Place → List Place
  | [], _ => []
  | e :: rest, p => e.ends p ++ endsAny rest p

end

/-- The preferred match at the first place that has one, `before` being the character before the
text. -/
def leftmostFrom (e : Expr) (before : Option Char) (text : List Char) : Option (List Char) :=
  match e.ends ⟨before, text⟩ with
  | q :: _ => some (text.take (text.length - q.rest.length))
  | [] =>
    match text with
    | [] => none
    | c :: rest => e.leftmostFrom (some c) rest

/-- The leftmost match in a text. -/
def leftmost (e : Expr) (text : List Char) : Option (List Char) := e.leftmostFrom none text

end Expr

/-! ### Greedy rounds -/

variable {f : Place → List Place} {p : Place} {n : Nat}

lemma upTo_of_nil (h : f p = []) (greedy : Bool) : upTo f greedy n p = [p] := by
  cases n with
  | zero => rfl
  | succ n => cases greedy <;> simp [upTo, h]

/-- What comes first after what comes first comes first. -/
lemma exists_flatMap_eq_cons {ps others tail : List Place} {q best : Place} (h : ps = q :: others)
    (hbest : f q = best :: tail) : ∃ tail', ps.flatMap f = best :: tail' := by
  simp [h, hbest]

/-- Greedy rounds come to the best that they come to after the best round. -/
lemma exists_upTo_eq_cons {q best : Place} {others tail : List Place} (h : f p = q :: others)
    (hlt : q.rest.length < p.rest.length) (hbest : upTo f true n q = best :: tail) :
    ∃ tail', upTo f true (n + 1) p = best :: tail' := by
  simp [upTo, h, hlt, hbest]

lemma Expr.ends_pair (d e : Expr) (p : Place) :
    (concat [d, e]).ends p = (d.ends p).flatMap e.ends := by
  simp [ends, endsAll]

lemma Expr.ends_plus (e : Expr) (p : Place) : (many e 1 none true).ends p =
    (e.ends p).flatMap fun q => upTo e.ends true q.rest.length q := by
  simp [ends, rounds]

end Regex

/-! ### Members of sets -/

namespace Unicode

namespace Ranges

variable {bs : List (Nat × Nat)} {n : Nat}

lemma holdsIn_coalesce {b : Nat × Nat} (h : (b :: bs).Pairwise fun b c => b.1 ≤ c.1) :
    holdsIn n (coalesce b bs) = true ↔ ∃ r ∈ b :: bs, r.1 ≤ n ∧ n ≤ r.2 := by
  induction bs generalizing b with
  | nil => simp [coalesce, holdsIn]
  | cons c rest ih =>
    obtain ⟨hb, hrest⟩ := List.pairwise_cons.mp h
    have hbc := hb c List.mem_cons_self
    rw [coalesce]
    split
    next htouch =>
      have hjoined : ((b.1, max b.2 c.2) :: rest).Pairwise fun b c => b.1 ≤ c.1 :=
        List.pairwise_cons.mpr
          ⟨fun r hr => hb r (List.mem_cons_of_mem _ hr), (List.pairwise_cons.mp hrest).2⟩
      rw [ih hjoined]
      simp only [List.exists_mem_cons_iff, ← or_assoc]
      refine or_congr_left ?_
      omega
    next =>
      have hlater : (∃ r ∈ c :: rest, r.1 ≤ n ∧ n ≤ r.2) → b.1 ≤ n := by
        rintro ⟨r, hr, hle, -⟩
        exact Nat.le_trans (hb r hr) hle
      rw [holdsIn, List.exists_mem_cons_iff]
      split
      next hlt =>
        refine iff_of_false Bool.false_ne_true ?_
        rintro (⟨hle, -⟩ | hother)
        · exact absurd hle (by omega)
        · exact absurd (hlater hother) (by omega)
      next hle =>
        rw [Bool.or_eq_true, decide_eq_true_eq, ih hrest]
        refine or_congr_left ?_
        omega

lemma contains_ofBounds {c : Char} :
    (ofBounds bs).contains c = true ↔ ∃ r ∈ bs, r.1 ≤ c.toNat ∧ c.toNat ≤ r.2 := by
  have hsorted : (bs.mergeSort fun b c => b.1 ≤ c.1).Pairwise fun b c => b.1 ≤ c.1 := by
    refine (List.pairwise_mergeSort ?_ ?_ bs).imp (by simp)
    · intro a b c hab hbc
      simp only [decide_eq_true_eq] at *
      exact Nat.le_trans hab hbc
    · intro a b
      simpa using Nat.le_total a.1 b.1
  have hmem : ∀ r, r ∈ bs.mergeSort (fun b c => b.1 ≤ c.1) ↔ r ∈ bs := fun r => List.mem_mergeSort
  simp only [ofBounds, contains, ← hmem]
  split
  next hnil => simp [holdsIn, hnil]
  next b rest hcons =>
    rw [hcons] at hsorted ⊢
    exact holdsIn_coalesce hsorted

end Ranges

lemma contains_decimalNumber (c : Char) : decimalNumber.contains c = isDecimalDigit c := by
  rw [Bool.eq_iff_iff, decimalNumber, Ranges.contains_ofBounds]
  simp [isDecimalDigit, decimalValue?]

end Unicode

/-! ### Numbers -/

namespace Version

open Regex (Expr Place)
open Unicode (isDecimalDigit decimalNumber)

variable {p : Place} {text run rest after : List Char} {runs : List (List Char)} {n : Nat}

/-- The expression for digits. -/
def digits : Expr := .many (.oneOf decimalNumber) 1 none true

/-- The expression for a dot and digits. -/
def dotDigits : Expr := .concat [.literal ['.'], digits]

/-- The expression that the pattern spells. -/
def expr : Expr := .concat [digits, .many dotDigits 1 none true]

lemma read_pattern : Regex.read pattern = .ok (expr, 5) := by cbv

lemma ends_digit_of_cons {c : Char} (hc : isDecimalDigit c = true) (h : p.rest = c :: rest) :
    (Expr.oneOf decimalNumber).ends p = [⟨some c, rest⟩] := by
  simp [Expr.ends, Place.step, h, Unicode.contains_decimalNumber, hc]

lemma ends_digit_of_noDigitFirst (h : NoDigitFirst p.rest) :
    (Expr.oneOf decimalNumber).ends p = [] := by
  cases hrest : p.rest with
  | nil => simp [Expr.ends, Place.step, hrest]
  | cons c rest =>
    have hc : isDecimalDigit c = false := h c (by simp [hrest])
    simp [Expr.ends, Place.step, hrest, Unicode.contains_decimalNumber, hc]

/-- Digits are taken as far as they go, and where fewer are taken a digit comes next. -/
lemma upTo_digit (hrun : ∀ c ∈ run, isDecimalDigit c = true) (hafter : NoDigitFirst after)
    (h : p.rest = run ++ after) (hn : run.length ≤ n) :
    ∃ best others, Regex.upTo (Expr.oneOf decimalNumber).ends true n p = best :: others ∧
      best.rest = after ∧ ∀ q ∈ others, ¬ NoDigitFirst q.rest := by
  induction run generalizing p n with
  | nil =>
    have hnone := ends_digit_of_noDigitFirst (p := p) (by rwa [h])
    exact ⟨p, [], Regex.upTo_of_nil hnone true, h, by simp⟩
  | cons c run ih =>
    obtain ⟨hc, hrun⟩ := List.forall_mem_cons.mp hrun
    cases n with
    | zero => simp at hn
    | succ n =>
      have hstep := ends_digit_of_cons hc h
      obtain ⟨best, others, hbest, hrest, hothers⟩ :=
        ih (p := ⟨some c, run ++ after⟩) (n := n) hrun rfl (by simpa using hn)
      refine ⟨best, others ++ [p], ?_, hrest, fun q hq => ?_⟩
      · simp [Regex.upTo, hstep, h, hbest]
      · rcases List.mem_append.mp hq with hq | hq
        · exact hothers q hq
        · obtain rfl := List.mem_singleton.mp hq
          exact fun hnone => by simpa [hc] using hnone c (by simp [h])

lemma ends_digits (hrun : IsRun run) (hafter : NoDigitFirst after) (h : p.rest = run ++ after) :
    ∃ best others, digits.ends p = best :: others ∧ best.rest = after ∧
      ∀ q ∈ others, ¬ NoDigitFirst q.rest := by
  obtain ⟨c, run, rfl⟩ := List.exists_cons_of_ne_nil hrun.1
  obtain ⟨hc, hrun⟩ := List.forall_mem_cons.mp hrun.2
  have hstep := ends_digit_of_cons hc h
  obtain ⟨best, others, hbest, hrest⟩ :=
    upTo_digit (p := ⟨some c, run ++ after⟩) (n := (run ++ after).length) hrun hafter rfl (by simp)
  refine ⟨best, others, ?_, hrest⟩
  rw [digits, Expr.ends_plus, hstep, List.flatMap_singleton]
  exact hbest

lemma ends_digits_of_noDigitFirst (h : NoDigitFirst p.rest) : digits.ends p = [] := by
  rw [digits, Expr.ends_plus, ends_digit_of_noDigitFirst h, List.flatMap_nil]

lemma ends_dotDigits_eq (p : Place) :
    dotDigits.ends p = (p.step (· == '.')).flatMap digits.ends := by
  rw [dotDigits, Expr.ends_pair]
  simp [Expr.ends, Place.read]

lemma ends_dotDigits (hrun : IsRun run) (hafter : NoDigitFirst after)
    (h : p.rest = '.' :: run ++ after) :
    ∃ best others, dotDigits.ends p = best :: others ∧ best.rest = after := by
  obtain ⟨best, others, hbest, hrest, -⟩ :=
    ends_digits (p := ⟨some '.', run ++ after⟩) hrun hafter rfl
  refine ⟨best, others, ?_, hrest⟩
  rw [ends_dotDigits_eq]
  simp [Place.step, h, hbest]

lemma ends_dotDigits_of_not_goesOn (h : ¬ GoesOn p.rest) : dotDigits.ends p = [] := by
  rw [ends_dotDigits_eq]
  cases hrest : p.rest with
  | nil => simp [Place.step, hrest]
  | cons c rest =>
    by_cases hc : c = '.'
    · have hnone : NoDigitFirst rest := by
        intro d hd
        obtain ⟨rest', rfl⟩ := List.head?_eq_some_iff.mp hd
        by_contra hdigit
        exact h ⟨d, rest', by rw [hrest, hc], by simpa using hdigit⟩
      simp [Place.step, hrest, hc, ends_digits_of_noDigitFirst (p := ⟨some '.', rest⟩) hnone]
    · simp [Place.step, hrest, hc]

/-- Dots with digits after them are taken as long as they go on. -/
lemma upTo_dotDigits (hruns : ∀ run ∈ runs, IsRun run) (hafter : NoDigitFirst after)
    (hend : ¬ GoesOn after) (h : p.rest = runs.flatMap ('.' :: ·) ++ after)
    (hn : runs.length ≤ n) :
    ∃ best others, Regex.upTo dotDigits.ends true n p = best :: others ∧ best.rest = after := by
  induction runs generalizing p n with
  | nil => exact ⟨p, [], Regex.upTo_of_nil (ends_dotDigits_of_not_goesOn (by rwa [h])) true, h⟩
  | cons run runs ih =>
    obtain ⟨hrun, hruns⟩ := List.forall_mem_cons.mp hruns
    cases n with
    | zero => simp at hn
    | succ n =>
      have hnext : NoDigitFirst (runs.flatMap ('.' :: ·) ++ after) := noDigitFirst_flatMap hafter
      have hp : p.rest = '.' :: run ++ (runs.flatMap ('.' :: ·) ++ after) := by simpa using h
      obtain ⟨q, others, hq, hqrest⟩ := ends_dotDigits hrun hnext hp
      obtain ⟨best, others', hbest, hrest⟩ := ih (p := q) (n := n) hruns hqrest (by simpa using hn)
      have hlt : q.rest.length < p.rest.length := by
        simp only [hp, hqrest, List.length_append, List.length_cons]
        omega
      obtain ⟨others'', hmore⟩ := Regex.exists_upTo_eq_cons hq hlt hbest
      exact ⟨best, others'', hmore, hrest⟩

lemma length_le_flatMap (runs : List (List Char)) :
    runs.length ≤ (runs.flatMap ('.' :: ·)).length := by
  induction runs with
  | nil => simp
  | cons run runs ih =>
    rw [List.flatMap_cons, List.length_append, List.length_cons, List.length_cons]
    omega

/-- Where a number begins, the best match is the number as far as it goes. -/
lemma ends_expr_of_begins (h : Begins p.rest) : ∃ best others number,
    expr.ends p = best :: others ∧ p.rest = number ++ best.rest ∧ Dotted number ∧
      NoDigitFirst best.rest ∧ ¬ GoesOn best.rest := by
  obtain ⟨run, rest, hp, hrun, hgoes⟩ := h
  obtain ⟨runs, after, hruns, hrest, -, hdigit, hend⟩ := exists_groups rest
  have hafter := hdigit hgoes.noDigitFirst
  have hne : runs ≠ [] := by
    rintro rfl
    exact hend (by simpa [hrest] using hgoes)
  obtain ⟨first, runs, rfl⟩ := List.exists_cons_of_ne_nil hne
  obtain ⟨hfirst, hruns'⟩ := List.forall_mem_cons.mp hruns
  have hnext : NoDigitFirst (runs.flatMap ('.' :: ·) ++ after) := noDigitFirst_flatMap hafter
  -- the first run, the first group, and as many more groups as there are
  obtain ⟨q, _, hq, hqrest, -⟩ := ends_digits hrun hgoes.noDigitFirst hp
  obtain ⟨r, _, hr, hrrest⟩ := ends_dotDigits (p := q) hfirst hnext (by rw [hqrest, hrest]; simp)
  have hlength : runs.length ≤ r.rest.length := by
    rw [hrrest, List.length_append]
    exact Nat.le_add_right_of_le (length_le_flatMap runs)
  obtain ⟨best, _, hbest, hbestrest⟩ := upTo_dotDigits hruns' hafter hend hrrest hlength
  obtain ⟨_, hgroups⟩ : ∃ tail, (Expr.many dotDigits 1 none true).ends q = best :: tail := by
    rw [Expr.ends_plus]
    exact Regex.exists_flatMap_eq_cons hr hbest
  obtain ⟨others, hothers⟩ : ∃ tail, expr.ends p = best :: tail := by
    rw [expr, Expr.ends_pair]
    exact Regex.exists_flatMap_eq_cons hq hgroups
  refine ⟨best, others, run ++ (first :: runs).flatMap ('.' :: ·), hothers, ?_,
    dotted_append hrun hne hruns, by rwa [hbestrest], by rwa [hbestrest]⟩
  rw [hp, hrest, hbestrest, List.append_assoc]

/-- Where no number begins, nothing matches. -/
lemma ends_expr_of_not_begins (h : ¬ Begins p.rest) : expr.ends p = [] := by
  have hgroups {q : Place} (hq : ¬ GoesOn q.rest) :
      (Expr.many dotDigits 1 none true).ends q = [] := by
    rw [Expr.ends_plus, ends_dotDigits_of_not_goesOn hq, List.flatMap_nil]
  rw [expr, Expr.ends_pair]
  by_cases hdigit : NoDigitFirst p.rest
  · rw [ends_digits_of_noDigitFirst hdigit, List.flatMap_nil]
  · -- behind the whole run nothing goes on, and within it a digit is next
    have hsplit := List.takeWhile_append_dropWhile (p := isDecimalDigit) (l := p.rest)
    have hafter := noDigitFirst_dropWhile p.rest
    have hrun : IsRun (p.rest.takeWhile isDecimalDigit) := by
      refine ⟨fun hnil => hdigit ?_, List.all_eq_true.mp List.all_takeWhile⟩
      rw [hnil, List.nil_append] at hsplit
      rwa [hsplit] at hafter
    obtain ⟨best, others, hbest, hrest, hothers⟩ := ends_digits hrun hafter hsplit.symm
    have hend : ¬ GoesOn (p.rest.dropWhile isDecimalDigit) := fun hgoes =>
      h ⟨_, _, hsplit.symm, hrun, hgoes⟩
    rw [hbest, List.flatMap_eq_nil_iff]
    refine List.forall_mem_cons.mpr ⟨hgroups (hrest ▸ hend), fun q hq => hgroups fun hgoes => ?_⟩
    exact hothers q hq hgoes.noDigitFirst

lemma leftmostFrom_of_cons {e : Expr} {before : Option Char} {best : Place} {others : List Place}
    {number : List Char} (h : e.ends ⟨before, text⟩ = best :: others)
    (htext : text = number ++ best.rest) : e.leftmostFrom before text = some number := by
  subst htext
  unfold Expr.leftmostFrom
  simp [h]

lemma leftmostFrom_cons_of_nil {e : Expr} {before : Option Char} {c : Char}
    (h : e.ends ⟨before, c :: rest⟩ = []) :
    e.leftmostFrom before (c :: rest) = e.leftmostFrom (some c) rest := by
  rw [Expr.leftmostFrom, h]

/-- The search by preference finds the first number. -/
lemma finds_leftmostFrom (before : Option Char) (text : List Char) :
    Finds text (expr.leftmostFrom before text) := by
  have hfound {before : Option Char} {text : List Char} (h : Begins text) :
      Finds text (expr.leftmostFrom before text) := by
    obtain ⟨best, others, number, hends, htext, hdotted, hafter, hend⟩ :=
      ends_expr_of_begins (p := ⟨before, text⟩) h
    rw [leftmostFrom_of_cons hends htext]
    exact ⟨[], best.rest, htext, .of_first hdotted hafter hend fun _ _ _ _ => Nat.zero_le _⟩
  induction text generalizing before with
  | nil =>
    have hnone : ¬ Begins [] := not_begins_of_noDigitFirst (by simp [NoDigitFirst])
    rw [Expr.leftmostFrom, ends_expr_of_not_begins hnone]
    intro front back heq
    rwa [(List.append_eq_nil_iff.mp heq.symm).2]
  | cons c rest ih =>
    by_cases h : Begins (c :: rest)
    · exact hfound h
    · have hbarren : Barren [c] rest := by
        intro front back heq hne
        rcases List.singleton_eq_append_iff.mp heq with ⟨-, rfl⟩ | ⟨-, rfl⟩
        · exact h
        · exact absurd rfl hne
      rw [leftmostFrom_cons_of_nil (ends_expr_of_not_begins h)]
      exact (ih (some c)).skip hbarren

lemma findIn_eq_of_finds {found? : Option (List Char)} (h : Finds text found?) :
    findIn text = found? := by
  cases found? with
  | none => exact findIn_eq_none_iff.mpr h
  | some number => exact findIn_eq_some_iff.mpr h

/-- **The scan is the search for the pattern**: what is found in a text is the leftmost match of the
expression that the pattern spells, which prefers as many digits and as many groups as there are. -/
theorem find?_eq_leftmost : ∃ e height, Regex.read pattern = .ok (e, height) ∧
    height ≤ Regex.maxHeight ∧
    ∀ text, find? text = (e.leftmost text.toList).map String.ofList := by
  refine ⟨expr, 5, read_pattern, by decide, fun text => ?_⟩
  rw [find?, findIn_eq_of_finds (finds_leftmostFrom none text.toList), Expr.leftmost]

end Version

end LintChain

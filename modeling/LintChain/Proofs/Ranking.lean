import LintChain.Proofs.Numerals
import Mathlib.Logic.Function.Iterate
import Mathlib.Order.PiLex
import Mathlib.Order.RelClasses

/-!
All texts are ranked as versions, whether they are well formed or not. A text stands for a sequence
of numbers that is zero from some place on, and these sequences are in lexicographic order. So each
comparison of two texts, with as many zeros put behind the shorter one as are missing there, is a
case of one order that has nothing to do with lengths.
-/

namespace LintChain

namespace Version

/-- The numbers of a version, with zeros behind them for ever. -/
def ranking (version : String) : Lex (ℕ → ℕ) := toLex ((parts version).getD · 0)

/-- **The comparison is by rank.** -/
lemma isOlder_iff_ranking_lt (found minimum : String) :
    isOlder found minimum ↔ ranking found < ranking minimum :=
  isOlder_iff_parts found minimum

/-- What is put behind a dot becomes one more part. -/
lemma parts_append_dot (version : String) {text : List Char} (h : '.' ∉ text) :
    parts (version ++ String.ofList ('.' :: text)) = parts version ++ [partValue text] := by
  rw [parts, String.toList_append, String.toList_ofList, Text.fields_append_sep,
    Text.fields_of_notMem h, List.map_append, List.map_singleton, parts]

lemma ranking_append_zero (version : String) : ranking (version ++ ".0") = ranking version := by
  have hparts : parts (version ++ ".0") = parts version ++ [0] :=
    parts_append_dot version (by decide : '.' ∉ ['0'])
  -- one zero more in front of the zeros that stand there for ever
  refine congrArg toLex (funext fun i => ?_)
  rw [hparts]
  rcases Nat.lt_or_ge i (parts version).length with hlt | hge
  · exact List.getD_append _ _ _ _ hlt
  · rw [List.getD_append_right _ _ _ _ hge, List.getD_eq_default _ _ hge]
    cases i - (parts version).length <;> rfl

lemma ranking_append_zeros (n : ℕ) (version : String) :
    ranking ((· ++ ".0")^[n] version) = ranking version := by
  induction n with
  | zero => rfl
  | succ n ih => rw [Function.iterate_succ_apply', ranking_append_zero, ih]

/-- **Versions are in a strict weak order**, the one of their ranks, and zeros at the end do not
count. -/
theorem isOlder_strictWeakOrder :
    IsStrictWeakOrder String (fun found minimum => isOlder found minimum) ∧
    (∀ a b, isOlder a b ↔ ranking a < ranking b) ∧
    ∀ a b m n, isOlder ((· ++ ".0")^[m] a) ((· ++ ".0")^[n] b) = isOlder a b := by
  refine ⟨?_, isOlder_iff_ranking_lt, fun a b m n => ?_⟩
  · -- ranks are in a linear order, and the order of versions is drawn back along them
    have hranks : IsStrictWeakOrder (Lex (ℕ → ℕ)) (· < ·) := isStrictWeakOrder_of_isOrderConnected
    have horder : (fun found minimum => (isOlder found minimum : Prop)) =
        Order.Preimage ranking (· < ·) :=
      funext₂ fun found minimum => propext (isOlder_iff_ranking_lt found minimum)
    rw [horder]
    exact inferInstance
  · rw [Bool.eq_iff_iff, isOlder_iff_ranking_lt, isOlder_iff_ranking_lt, ranking_append_zeros,
      ranking_append_zeros]

end Version

end LintChain

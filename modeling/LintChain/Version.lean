import LintChain.Text.Split
import LintChain.Unicode.Digits

/-!
Version numbers in the output of tools. A version is the first dotted number of a text; two versions
are compared part by part, missing parts being zero.
-/

namespace LintChain.Version

open Unicode (isDecimalDigit)

/-- What a version looks like, as a regular expression. -/
def pattern : String := "\\d+(?:\\.\\d+)+"

/-- The longest run of groups, each a dot and then digits, at the start of a text. -/
def groups : List Char → List Char
  | '.' :: d :: rest =>
    if isDecimalDigit d then
      '.' :: d :: rest.takeWhile isDecimalDigit ++ groups (rest.dropWhile isDecimalDigit)
    else []
  | _ => []
termination_by text => text.length
decreasing_by
  have := (List.dropWhile_suffix isDecimalDigit (l := rest)).length_le
  simp only [List.length_cons]
  omega

/-- The first run of digits that has such groups after it, with these groups. -/
def findIn : List Char → Option (List Char)
  | [] => none
  | c :: rest =>
    if isDecimalDigit c then
      let after := rest.dropWhile isDecimalDigit
      match groups after with
      | [] => findIn after
      | g :: gs => some (c :: rest.takeWhile isDecimalDigit ++ g :: gs)
    else findIn rest
termination_by text => text.length
decreasing_by
  · have := (List.dropWhile_suffix isDecimalDigit (l := rest)).length_le
    simp only [List.length_cons]
    omega
  · simp

/-- The first dotted number of a text, as it is spelled there. -/
def find? (text : String) : Option String := (findIn text.toList).map String.ofList

/-- The largest number that a part may have. -/
def maxPart : Nat := 18446744073709551615

/-- The number that ASCII digits spell. -/
def digitsValue (digits : List Char) : Nat :=
  digits.foldl (fun n c => n * 10 + (c.toNat - '0'.toNat)) 0

/-- The value of a part: 0 unless it spells a number that is not too large in ASCII digits. -/
def partValue (part : List Char) : Nat :=
  let digits := match part with
    | '+' :: rest => rest
    | _ => part
  if digits ≠ [] ∧ digits.all Char.isDigit ∧ digitsValue digits ≤ maxPart then digitsValue digits
  else 0

def parts (version : String) : List Nat := (Text.fields '.' version.toList).map partValue

/-- `parts` followed by zeros, `n` numbers in all if there are not more. -/
def pad (n : Nat) (parts : List Nat) : List Nat := parts ++ List.replicate (n - parts.length) 0

/-- Whether `found` comes before `minimum`. -/
def isOlder (found minimum : String) : Bool :=
  let n := max (parts found).length (parts minimum).length
  decide (pad n (parts found) < pad n (parts minimum))

end LintChain.Version

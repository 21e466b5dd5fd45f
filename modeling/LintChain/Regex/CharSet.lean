import LintChain.Unicode.CaseFold
import LintChain.Unicode.Category

/-!
The sets of characters that a pattern can name, in all scripts or in ASCII alone, and their
closure under a change of case.
-/

namespace LintChain.Regex

abbrev CharSet := Unicode.Ranges

namespace CharSet

open Unicode (Ranges)

def none : CharSet := Ranges.empty

def any : CharSet := Ranges.all

def single (c : Char) : CharSet := Ranges.single c.toNat

def range (low high : Char) : CharSet := Ranges.range low.toNat high.toNat

def union (s t : CharSet) : CharSet := Ranges.union s t

def complement (s : CharSet) : CharSet := Ranges.complement s

def ofList (cs : List Char) : CharSet := Ranges.ofBounds (cs.map fun c => (c.toNat, c.toNat))

def digits (allScripts : Bool) : CharSet :=
  if allScripts then Unicode.decimalNumber else range '0' '9'

def blanks (allScripts : Bool) : CharSet :=
  if allScripts then Unicode.whiteSpace else ⟨[(9, 13), (32, 32)]⟩

def words (allScripts : Bool) : CharSet :=
  if allScripts then Unicode.wordCharacter else ⟨[(48, 57), (65, 90), (95, 95), (97, 122)]⟩

/-- The sets with names between colons. -/
def ascii? (name : String) : Option CharSet :=
  match name with
  | "alnum" => some ⟨[(48, 57), (65, 90), (97, 122)]⟩
  | "alpha" => some ⟨[(65, 90), (97, 122)]⟩
  | "ascii" => some ⟨[(0, 127)]⟩
  | "blank" => some ⟨[(9, 9), (32, 32)]⟩
  | "cntrl" => some ⟨[(0, 31), (127, 127)]⟩
  | "digit" => some (digits false)
  | "graph" => some ⟨[(33, 126)]⟩
  | "lower" => some ⟨[(97, 122)]⟩
  | "print" => some ⟨[(32, 126)]⟩
  | "punct" => some ⟨[(33, 47), (58, 64), (91, 96), (123, 126)]⟩
  | "space" => some (blanks false)
  | "upper" => some ⟨[(65, 90)]⟩
  | "word" => some (words false)
  | "xdigit" => some ⟨[(48, 57), (65, 70), (97, 102)]⟩
  | _ => .none

/-- The other case of an ASCII letter. -/
def asciiVariants (n : Nat) : List Nat :=
  if 65 ≤ n ∧ n ≤ 90 then [n + 32] else if 97 ≤ n ∧ n ≤ 122 then [n - 32] else []

/-- The characters that equal one of the set's up to case, in all scripts or in ASCII alone. -/
def folded (allScripts : Bool) (s : CharSet) : CharSet :=
  if allScripts then Unicode.closeUnderFolding s
  else s.union (Unicode.points ((s.inter (.range 0 127)).members.flatMap asciiVariants))

/-- The one member of a set that has no other. -/
def only? (s : CharSet) : Option Char :=
  match s.bounds with
  | [(low, high)] => if low = high then some (Char.ofNat low) else .none
  | _ => .none

end CharSet

end LintChain.Regex

import LintChain.Regex.Pattern
import LintChain.Text.Octets

/-!
Patterns of the shell: `*`, `?` and bracketed classes, unless they are quoted. A pattern is matched
against the whole of a text, or taken off one of its ends.
-/

namespace LintChain.Shell

open Regex (Pattern Atom CharSet)
open Text (Octets)

/-- A character and whether it is quoted. -/
abbrev Glyph := Char × Bool

namespace Wildcard

/-- The set with a name between colons and what follows it. -/
def namedClass? (rest : List Glyph) : Option (CharSet × List Glyph) :=
  match rest with
  | ('[', false) :: (':', _) :: after =>
    let name := (after.takeWhile fun g => g.1 ≠ ':').map (·.1)
    match after.drop name.length with
    | (':', _) :: (']', _) :: after =>
      (CharSet.ascii? (String.ofList name)).map fun set => (set, after)
    | _ => none
  | _ => none

/-- The set that a bracket's items stand for, and what follows the bracket. -/
def readItems (fuel : Nat) (first : Bool) (items : List Glyph) : Option (CharSet × List Glyph) :=
  match fuel with
  | 0 => none
  | fuel + 1 =>
    match namedClass? items, items with
    | some (set, after), _ =>
      (readItems fuel false after).map fun (others, rest) => (.union set others, rest)
    | none, (']', false) :: rest =>
      if first then
        (readItems fuel false rest).map fun (others, rest) => (.union (.single ']') others, rest)
      else some (.none, rest)
    | none, (a, _) :: ('-', false) :: (b, q) :: rest =>
      if b = ']' ∧ !q then
        (readItems fuel false (('-', true) :: (b, q) :: rest)).map fun (others, rest) =>
          (.union (.single a) others, rest)
      else
        (readItems fuel false rest).map fun (others, rest) =>
          (.union (.range a b) others, rest)
    | none, (a, _) :: rest =>
      (readItems fuel false rest).map fun (others, rest) => (.union (.single a) others, rest)
    | none, [] => none

/-- A bracket behind its first character. -/
def readClass (items : List Glyph) : Option (CharSet × List Glyph) :=
  let fuel := items.length + 1
  match items with
  | ('!', false) :: rest | ('^', false) :: rest =>
    (readItems fuel true rest).map fun (set, rest) => (.complement set, rest)
  | _ => readItems fuel true items

/-- The pattern that glyphs spell. -/
def ofGlyphs (fuel : Nat) (glyphs : List Glyph) : Pattern Atom :=
  match fuel with
  | 0 => .empty
  | fuel + 1 =>
    let single (c : Char) (rest : List Glyph) : Pattern Atom :=
      .seq (.atom (.char (.single c))) (ofGlyphs fuel rest)
    match glyphs with
    | [] => .empty
    | ('*', false) :: rest => .seq (.many (.atom (.char .any)) 0 none) (ofGlyphs fuel rest)
    | ('?', false) :: rest => .seq (.atom (.char .any)) (ofGlyphs fuel rest)
    | ('\\', false) :: (c, _) :: rest => single c rest
    | ('[', false) :: rest =>
      match readClass rest with
      | some (set, rest) => .seq (.atom (.char set)) (ofGlyphs fuel rest)
      | none => single '[' rest
    | (c, _) :: rest => single c rest

end Wildcard

/-- Whether glyphs, read as a pattern, match the whole of a text. -/
def isMatch (glyphs : List Glyph) (text : Octets) : Bool :=
  (Wildcard.ofGlyphs (glyphs.length + 1) glyphs).isWholeMatch text

/-- `text` without the shortest or longest beginning that matches. -/
def trimStart (longest : Bool) (glyphs : List Glyph) (text : Octets) : Octets :=
  let pattern := Wildcard.ofGlyphs (glyphs.length + 1) glyphs
  let cuts := (List.range (text.length + 1)).filter fun n => pattern.isWholeMatch (text.take n)
  match if longest then cuts.getLast? else cuts.head? with
  | some n => text.drop n
  | none => text

/-- `text` without the shortest or longest end that matches. -/
def trimEnd (longest : Bool) (glyphs : List Glyph) (text : Octets) : Octets :=
  let pattern := Wildcard.ofGlyphs (glyphs.length + 1) glyphs
  let cuts := (List.range (text.length + 1)).filter fun n => pattern.isWholeMatch (text.drop n)
  match if longest then cuts.head? else cuts.getLast? with
  | some n => text.take n
  | none => text

end LintChain.Shell

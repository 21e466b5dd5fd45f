import LintChain.Regex.CharSet

/-!
Regular expressions and the places of a text where they match. A pattern takes the set of
positions where it may start to the set of positions where it may end; sets of positions are
numbers, bit `i` standing for the position before character `i`.
-/

namespace LintChain.Regex

inductive Anchor
  | textStart
  | textEnd
  | lineStart (crlf : Bool)
  | lineEnd (crlf : Bool)
  | wordBoundary (allScripts : Bool)
  | notWordBoundary (allScripts : Bool)
  | wordStart (allScripts : Bool)
  | wordEnd (allScripts : Bool)
  | wordStartHalf (allScripts : Bool)
  | wordEndHalf (allScripts : Bool)
  deriving DecidableEq

/-- Whether an anchor holds between two neighbouring characters, absent at the text's ends. -/
def Anchor.holds (anchor : Anchor) (before after : Option Char) : Bool :=
  let word (allScripts : Bool) (c : Option Char) : Bool := c.any (CharSet.words allScripts).contains
  match anchor with
  | textStart => before.isNone
  | textEnd => after.isNone
  | lineStart false => before.isNone || before == some '\n'
  | lineStart true =>
    before.isNone || before == some '\n' || (before == some '\r' && after != some '\n')
  | lineEnd false => after.isNone || after == some '\n'
  | lineEnd true =>
    after.isNone || after == some '\r' || (after == some '\n' && before != some '\r')
  | wordBoundary u => word u before != word u after
  | notWordBoundary u => word u before == word u after
  | wordStart u => !word u before && word u after
  | wordEnd u => word u before && !word u after
  | wordStartHalf u => !word u before
  | wordEndHalf u => !word u after

inductive Atom
  | char (set : CharSet)
  | anchor (a : Anchor)

inductive Pattern (α : Type)
  | empty
  | atom (a : α)
  | seq (p q : Pattern α)
  | alt (p q : Pattern α)
  /-- At least `least` times and at most `most` times, if there is a bound. -/
  | many (p : Pattern α) (least : Nat) (most : Option Nat)

namespace Pattern

def map {α β : Type} (f : α → β) : Pattern α → Pattern β
  | empty => empty
  | atom a => atom (f a)
  | seq p q => seq (p.map f) (q.map f)
  | alt p q => alt (p.map f) (q.map f)
  | many p least most => many (p.map f) least most

def seqAll {α : Type} (ps : List (Pattern α)) : Pattern α :=
  match ps with
  | [] => empty
  | [p] => p
  | p :: rest => seq p (seqAll rest)

def altAll {α : Type} (ps : List (Pattern α)) : Pattern α :=
  match ps with
  | [] => empty
  | [p] => p
  | p :: rest => alt p (altAll rest)

end Pattern

/-- What an atom does in a given text: it steps over one character of those marked, or it stays
at one of the positions marked. -/
inductive Move
  | advance (marked : Nat)
  | stay (marked : Nat)

def Move.apply : Move → Nat → Nat
  | advance marked, s => (s &&& marked) <<< 1
  | stay marked, s => s &&& marked

/-- The number with these bits, the first one lowest. -/
def shortMarks (bits : List Bool) : Nat :=
  bits.foldr (fun b n => 2 * n + if b then 1 else 0) 0

/-- The same, sixty bits at a time, so that the large numbers are few. -/
def marks (bits : List Bool) : Nat :=
  match bits with
  | [] => 0
  | b :: rest => shortMarks (b :: rest.take 59) + marks (rest.drop 59) <<< 60
termination_by bits.length
decreasing_by
  simp only [List.length_cons, List.length_drop]
  omega

def Atom.locate (text : List Char) : Atom → Move
  | char set => .advance (marks (text.map set.contains))
  | anchor a =>
    let before := none :: text.map some
    let after := text.map some ++ [none]
    .stay (marks (List.zipWith a.holds before after))

/-- `f` applied `n` times, or until nothing is left. -/
def iterate (f : Nat → Nat) : Nat → Nat → Nat
  | 0, s => s
  | n + 1, s => if s = 0 then 0 else iterate f n (f s)

/-- What `f` reaches in at most `n` applications. -/
def reach (f : Nat → Nat) : Nat → Nat → Nat
  | 0, s => s
  | n + 1, s =>
    let t := s ||| f s
    if t = s then s else reach f n t

/-- The positions where a match can end that starts at a position of the given set, in a text of
`length` characters. -/
def Pattern.ends (length : Nat) : Pattern Move → Nat → Nat
  | empty, s => s
  | atom m, s => m.apply s
  | seq p q, s => q.ends length (p.ends length s)
  | alt p q, s => p.ends length s ||| q.ends length s
  | many p least most, s =>
    let s := iterate (p.ends length) least s
    match most with
    | none => reach (p.ends length) (length + 1) s
    | some n => reach (p.ends length) (n - least) s

/-- Whether the pattern matches some part of the text. -/
def Pattern.isMatch (p : Pattern Atom) (text : List Char) : Bool :=
  let located := p.map (Atom.locate text)
  located.ends text.length (1 <<< (text.length + 1) - 1) != 0

/-- Whether the pattern matches the text from its start to its end. -/
def Pattern.isWholeMatch (p : Pattern Atom) (text : List Char) : Bool :=
  let located := p.map (Atom.locate text)
  (located.ends text.length 1).testBit text.length

/-- The longest match from each position of a text, as the position of its end. -/
def Pattern.longestFrom (p : Pattern Atom) (text : List Char) : Nat → Option Nat :=
  let located := p.map (Atom.locate text)
  fun start =>
    let ends := located.ends text.length (1 <<< start)
    if ends = 0 then none else some ends.log2

/-- The matches of a text from left to right, as starts and ends. Each is the longest at its start,
and an empty one does not stand right behind another match. -/
def spansFrom (longest : Nat → Option Nat) : Nat → Nat → Bool → List (Nat × Nat)
  | 0, _, _ => []
  | fuel + 1, start, behind =>
    match longest start with
    | none => spansFrom longest fuel (start + 1) false
    | some stop =>
      if start < stop then (start, stop) :: spansFrom longest fuel stop true
      else if behind then spansFrom longest fuel (start + 1) false
      else (start, start) :: spansFrom longest fuel (start + 1) false

def Pattern.spans (p : Pattern Atom) (text : List Char) : List (Nat × Nat) :=
  (spansFrom (p.longestFrom text) (text.length + 1) 0 false).filter (·.1 ≤ text.length)

end LintChain.Regex

import LintChain.Regex.Pattern

/-!
Regular expressions in a normal form: a run of characters is one literal, a concatenation holds no
concatenations, an alternation holds no alternations, and alternatives that begin alike share their
beginning. The functions that build an expression keep it in this form.
-/

namespace LintChain.Regex

inductive Expr
  | empty
  | literal (text : List Char)
  | oneOf (set : CharSet)
  | anchor (a : Anchor)
  /-- At least `least` times and at most `most` times, if there is a bound. -/
  | many (e : Expr) (least : Nat) (most : Option Nat) (greedy : Bool)
  /-- A group that is remembered, by its number. -/
  | group (index : Nat) (e : Expr)
  | concat (es : List Expr)
  | alt (es : List Expr)

namespace Expr

mutual

def same : Expr → Expr → Bool
  | empty, empty => true
  | literal s, literal t => s == t
  | oneOf s, oneOf t => s == t
  | anchor a, anchor b => a == b
  | many d l m g, many e l' m' g' => l == l' && m == m' && g == g' && d.same e
  | group i d, group j e => i == j && d.same e
  | concat ds, concat es => sameAll ds es
  | alt ds, alt es => sameAll ds es
  | _, _ => false

def sameAll : List Expr → List Expr → Bool
  | [], [] => true
  | d :: ds, e :: es => d.same e && sameAll ds es
  | _, _ => false

end

/-! ### Lengths -/

def utf8Length (c : Char) : Nat := c.utf8Size

/-- The bytes of the shortest and longest characters of a set that is not empty. -/
def setLengths (s : CharSet) : Option (Nat × Nat) :=
  match s.bounds.head?, s.bounds.getLast? with
  | some b, some c => some (utf8Length (Char.ofNat b.1), utf8Length (Char.ofNat c.2))
  | _, _ => none

mutual

/-- The bytes of the shortest match; none when nothing can match. -/
def minLength : Expr → Option Nat
  | empty => some 0
  | literal text => some (String.ofList text).utf8ByteSize
  | oneOf s => (setLengths s).map (·.1)
  | anchor _ => some 0
  | many e least _ _ => e.minLength.map (· * least)
  | group _ e => e.minLength
  | concat es => minLengthAll es
  | alt es => minLengthAny es

def minLengthAll : List Expr → Option Nat
  | [] => some 0
  | e :: rest => do return (← e.minLength) + (← minLengthAll rest)

def minLengthAny : List Expr → Option Nat
  | [] => none
  | [e] => e.minLength
  | e :: rest => do return min (← e.minLength) (← minLengthAny rest)

end

mutual

/-- The bytes of the longest match; none when nothing can match or there is no longest. -/
def maxLength : Expr → Option Nat
  | empty => some 0
  | literal text => some (String.ofList text).utf8ByteSize
  | oneOf s => (setLengths s).map (·.2)
  | anchor _ => some 0
  | many e _ most _ => do return (← e.maxLength) * (← most)
  | group _ e => e.maxLength
  | concat es => maxLengthAll es
  | alt es => maxLengthAny es

def maxLengthAll : List Expr → Option Nat
  | [] => some 0
  | e :: rest => do return (← e.maxLength) + (← maxLengthAll rest)

def maxLengthAny : List Expr → Option Nat
  | [] => none
  | [e] => e.maxLength
  | e :: rest => do return max (← e.maxLength) (← maxLengthAny rest)

end

mutual

/-- Whether every match starts where the anchor holds. -/
def startsAt (a : Anchor) : Expr → Bool
  | anchor b => b == a
  | many e least _ _ => least != 0 && e.startsAt a
  | group _ e => e.startsAt a
  | concat es => startsAtAny a es
  | alt es => startsAtAll a es
  | _ => false

def startsAtAny (a : Anchor) : List Expr → Bool
  | [] => false
  | e :: rest => e.startsAt a || (e.maxLength == some 0 && startsAtAny a rest)

def startsAtAll (a : Anchor) : List Expr → Bool
  | [] => true
  | e :: rest => e.startsAt a && startsAtAll a rest

end

mutual

/-- Whether every match ends where the anchor holds. -/
def endsAt (a : Anchor) : Expr → Bool
  | anchor b => b == a
  | many e least _ _ => least != 0 && e.endsAt a
  | group _ e => e.endsAt a
  | concat es => endsAtAny a es
  | alt es => endsAtAll a es
  | _ => false

/-- The same of a concatenation, by the first of its parts from the end that is not empty. -/
def endsAtAny (a : Anchor) : List Expr → Bool
  | [] => false
  | e :: rest => endsAtAny a rest || (emptyAll rest && e.endsAt a)

def endsAtAll (a : Anchor) : List Expr → Bool
  | [] => true
  | e :: rest => e.endsAt a && endsAtAll a rest

def emptyAll : List Expr → Bool
  | [] => true
  | e :: rest => e.maxLength == some 0 && emptyAll rest

end

/-! ### Building -/

def ofSet (s : CharSet) : Expr :=
  match s.only? with
  | some c => literal [c]
  | none => oneOf s

/-- A repetition. Of what is always empty one round is as good as many. -/
def repeated (e : Expr) (least : Nat) (most : Option Nat) (greedy : Bool) : Expr :=
  let (least, most) :=
    if e.maxLength = some 0 then (min least 1, some (min (most.getD 1) 1)) else (least, most)
  if least = 0 ∧ most = some 0 then empty
  else if least = 1 ∧ most = some 1 then e
  else many e least most greedy

/-- Joins neighbouring literals and drops what is empty; `before` is a literal in progress. -/
def joinLiterals (before : List Char) : List Expr → List Expr
  | [] => if before.isEmpty then [] else [literal before]
  | literal text :: rest => joinLiterals (before ++ text) rest
  | empty :: rest => joinLiterals before rest
  | e :: rest => (if before.isEmpty then [] else [literal before]) ++ e :: joinLiterals [] rest

def parts : Expr → List Expr
  | concat es => es
  | e => [e]

def concatAll (es : List Expr) : Expr :=
  match joinLiterals [] (es.flatMap parts) with
  | [] => empty
  | [e] => e
  | es => concat es

def alternatives : Expr → List Expr
  | alt es => es
  | e => [e]

/-- The characters of alternatives that are one character each. -/
def singleChars : List Expr → Option (List Char)
  | [] => some []
  | literal [c] :: rest => (singleChars rest).map (c :: ·)
  | _ :: _ => none

/-- The sets of alternatives that are sets each. -/
def singleSets : List Expr → Option (List CharSet)
  | [] => some []
  | oneOf s :: rest => (singleSets rest).map (s :: ·)
  | _ :: _ => none

/-- How many parts two concatenations have in common at their start. -/
def commonLength : List Expr → List Expr → Nat
  | d :: ds, e :: es => if d.same e then commonLength ds es + 1 else 0
  | _, _ => 0

/-- The parts of every alternative, if each is a concatenation. -/
def concatenations : List Expr → Option (List (List Expr))
  | [] => some []
  | concat es :: rest => (concatenations rest).map (es :: ·)
  | _ :: _ => none

/-- The parts with which all the concatenations start. -/
def sharedStart (first : List Expr) (others : List (List Expr)) : Nat :=
  others.foldl (fun n es => commonLength (first.take n) es) first.length

/-- An alternation, of alternatives that need not be in normal form side by side. After a shared
beginning is taken out the rests are alternatives again, and shorter by it: `fuel` bounds this. -/
def altFuel : Nat → List Expr → Expr
  | fuel, es =>
    match es.flatMap alternatives with
    | [] => oneOf .none
    | [e] => e
    | es =>
      match singleChars es, singleSets es, concatenations es, fuel with
      | some cs, _, _, _ => ofSet (.ofList cs)
      | none, some ss, _, _ => ofSet (Unicode.Ranges.unions ss)
      | none, none, some (first :: others), fuel + 1 =>
        let shared := sharedStart first others
        if shared = 0 then alt es
        else
          let rests := (first :: others).map fun parts => concatAll (parts.drop shared)
          concatAll (first.take shared ++ [altFuel fuel rests])
      | _, _, _, _ => alt es

end Expr

mutual

/-- The number of parts of an expression. -/
def Expr.size : Expr → Nat
  | .many e _ _ _ => e.size + 1
  | .group _ e => e.size + 1
  | .concat es => Expr.sizes es + 1
  | .alt es => Expr.sizes es + 1
  | _ => 1

def Expr.sizes : List Expr → Nat
  | [] => 0
  | e :: rest => e.size + Expr.sizes rest

end

namespace Expr

def altAll (es : List Expr) : Expr := altFuel (sizes es) es

/-! ### Matching -/

mutual

def pattern : Expr → Pattern Atom
  | empty => .empty
  | literal text => .seqAll (text.map fun c => .atom (.char (.single c)))
  | oneOf s => .atom (.char s)
  | anchor a => .atom (.anchor a)
  | many e least most _ => .many e.pattern least most
  | group _ e => e.pattern
  | concat es => .seqAll (patterns es)
  | alt es => .altAll (patterns es)

def patterns : List Expr → List (Pattern Atom)
  | [] => []
  | e :: rest => e.pattern :: patterns rest

end

end Expr

end LintChain.Regex

import LintChain.Text.Split

/-!
Sets of code points as ascending lists of ranges, and how they are written in tables: `41-5A 5F`
holds the capital letters and the underscore, in hexadecimal. Surrogates are no members; a range
that spans them skips them.
-/

namespace LintChain.Unicode

structure Ranges where
  /-- First and last code points; between one range and the next something is missing. -/
  bounds : List (Nat × Nat)
  deriving DecidableEq

namespace Ranges

/-! ### Tables -/

def hexDigit? (c : Char) : Option Nat :=
  let n := c.toNat
  if 48 ≤ n ∧ n ≤ 57 then some (n - 48)
  else if 65 ≤ n ∧ n ≤ 70 then some (n - 55)
  else if 97 ≤ n ∧ n ≤ 102 then some (n - 87)
  else none

/-- The value of hexadecimal digits, anything else skipped. -/
def hexValue (digits : List Char) : Nat :=
  digits.foldl (fun n c => match hexDigit? c with | some d => n * 16 + d | none => n) 0

def boundsOfField (field : List Char) : Nat × Nat :=
  match Text.fields '-' field with
  | [low, high] => (hexValue low, hexValue high)
  | _ => (hexValue field, hexValue field)

/-- A table, whose ranges stand in ascending order. -/
def ofText (lines : List String) : Ranges :=
  ⟨lines.flatMap fun line => (Text.fields ' ' line.toList).map boundsOfField⟩

/-! ### Sets -/

def empty : Ranges := ⟨[]⟩

def all : Ranges := ⟨[(0, 0x10FFFF)]⟩

def range (low high : Nat) : Ranges := if low ≤ high then ⟨[(low, high)]⟩ else empty

def single (n : Nat) : Ranges := ⟨[(n, n)]⟩

def holdsIn (n : Nat) : List (Nat × Nat) → Bool
  | [] => false
  | b :: rest => if n < b.1 then false else n ≤ b.2 || holdsIn n rest

def contains (r : Ranges) (c : Char) : Bool := holdsIn c.toNat r.bounds

/-- Whether no member lies above the ASCII ones. -/
def isAscii (r : Ranges) : Bool := r.bounds.all fun b => b.2 ≤ 0x7F

/-- Joins ranges that touch or overlap, from those in ascending order of their starts. -/
def coalesce (b : Nat × Nat) : List (Nat × Nat) → List (Nat × Nat)
  | [] => [b]
  | c :: rest =>
    if c.1 ≤ b.2 + 1 then coalesce (b.1, max b.2 c.2) rest else b :: coalesce c rest

def ofBounds (bs : List (Nat × Nat)) : Ranges :=
  match bs.mergeSort (fun b c => b.1 ≤ c.1) with
  | [] => ⟨[]⟩
  | b :: rest => ⟨coalesce b rest⟩

def union (r s : Ranges) : Ranges :=
  match r.bounds, s.bounds with
  | [], _ => s
  | _, [] => r
  | bs, cs => ofBounds (bs ++ cs)

def unions (rs : List Ranges) : Ranges := ofBounds (rs.flatMap Ranges.bounds)

/-- The code point after another, with nothing between the two ends of the surrogates. -/
def next (n : Nat) : Nat := if n = 0xD7FF then 0xE000 else n + 1

def previous (n : Nat) : Nat := if n = 0xE000 then 0xD7FF else n - 1

/-- What lies between two ranges. Ranges that meet across the surrogates leave their own ends. -/
def between (last first : Nat) : Nat × Nat :=
  (min (next last) (previous first), max (next last) (previous first))

def gapsAfter (last : Nat) : List (Nat × Nat) → List (Nat × Nat)
  | [] => if last < 0x10FFFF then [(next last, 0x10FFFF)] else []
  | b :: rest => between last b.1 :: gapsAfter b.2 rest

def complement (r : Ranges) : Ranges :=
  match r.bounds with
  | [] => all
  | b :: rest =>
    let before := if 0 < b.1 then [(0, previous b.1)] else []
    ⟨before ++ gapsAfter b.2 rest⟩

def common : List (Nat × Nat) → List (Nat × Nat) → List (Nat × Nat)
  | [], _ => []
  | _ :: _, [] => []
  | b :: bs, c :: cs =>
    let rest := if b.2 < c.2 then common bs (c :: cs) else common (b :: bs) cs
    if max b.1 c.1 ≤ min b.2 c.2 then (max b.1 c.1, min b.2 c.2) :: rest else rest
termination_by bs cs => bs.length + cs.length

def inter (r s : Ranges) : Ranges := ⟨common r.bounds s.bounds⟩

def without : List (Nat × Nat) → List (Nat × Nat) → List (Nat × Nat)
  | [], _ => []
  | b :: bs, [] => b :: bs
  | b :: bs, c :: cs =>
    if c.2 < b.1 then without (b :: bs) cs
    else if b.2 < c.1 then b :: without bs (c :: cs)
    else
      let before := if b.1 < c.1 then [(b.1, previous c.1)] else []
      if c.2 < b.2 then before ++ without ((next c.2, b.2) :: bs) cs
      else before ++ without bs (c :: cs)
termination_by bs cs => bs.length + cs.length

def minus (r s : Ranges) : Ranges := ⟨without r.bounds s.bounds⟩

def differ (r s : Ranges) : Ranges := (r.union s).minus (r.inter s)

/-- The members one by one. -/
def members (r : Ranges) : List Nat :=
  r.bounds.flatMap fun b => (List.range (b.2 + 1 - b.1)).map (b.1 + ·)

end Ranges

end LintChain.Unicode

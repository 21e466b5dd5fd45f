import LintChain.Regex.Automaton
import LintChain.Regex.Class

/-!
Reading a regular expression. Groups nest on a stack of frames; each round of the reader takes at
least one character. Flags change in the middle of a group and are restored at its end.
-/

namespace LintChain.Regex

/-! ### Groups -/

/-- A piece of a concatenation: an expression with the height of the tree it was written as, or a
change of flags. -/
inductive Piece
  | expr (e : Expr) (height : Nat)
  | flags

def Piece.expr? : Piece → Option (Expr × Nat)
  | expr e h => some (e, h)
  | flags => none

/-- An open group: the alternatives before the current one, the pieces of the current one, last
first, the flags to go back to, and its number if it is remembered. -/
structure Frame where
  alternatives : List (Expr × Nat)
  pieces : List Piece
  outer : Flags
  index : Option Nat

def Frame.start (outer : Flags) (index : Option Nat) : Frame := ⟨[], [], outer, index⟩

def joinHeights (hs : List Nat) : Nat :=
  match hs with
  | [] => 0
  | [h] => h
  | hs => hs.foldl max 0 + 1

def Frame.current (f : Frame) : Expr × Nat :=
  let items := f.pieces.reverse.filterMap Piece.expr?
  (.concatAll (items.map (·.1)), if f.pieces.length ≤ 1 then joinHeights (items.map (·.2))
    else (items.map (·.2)).foldl max 0 + 1)

def Frame.close (f : Frame) : Expr × Nat :=
  let all := f.alternatives.reverse ++ [f.current]
  let (e, h) := (Expr.altAll (all.map (·.1)), joinHeights (all.map (·.2)))
  match f.index with
  | some index => (.group index e, h)
  | none => (e, h)

def Frame.add (f : Frame) (p : Piece) : Frame := { f with pieces := p :: f.pieces }

def setFlag (flags : Flags) (on : Bool) : Char → Option Flags
  | 'i' => some { flags with ignoreCase := on }
  | 'm' => some { flags with multiLine := on }
  | 's' => some { flags with dotMatchesNewline := on }
  | 'u' => some { flags with allScripts := on }
  | 'R' => some { flags with crlf := on }
  | 'x' => some { flags with ignoreBlanks := on }
  | 'U' => some { flags with swapGreed := on }
  | _ => none

/-- Flags up to a colon or a closing parenthesis; `seen` are the letters and signs before. -/
def readFlags (flags : Flags) (on : Bool) (seen : List Char) :
    List Char → Except Error (Flags × List Char × Char × List Char)
  | [] => .error .badFlags
  | c :: rest =>
    if c = ':' ∨ c = ')' then
      if seen.head? = some '-' then .error .badFlags else .ok (flags, seen, c, rest)
    else if seen.contains c then .error .badFlags
    else if c = '-' then readFlags flags false (c :: seen) rest
    else
      match setFlag flags on c with
      | some flags => readFlags flags on (c :: seen) rest
      | none => .error .badFlags

def isNameChar (first : Bool) (c : Char) : Bool :=
  c == '_' || Unicode.isAlphabetic c ||
    (!first && (c == '.' || c == '[' || c == ']' || Unicode.isNumeric c))

/-- A group's name up to its closing angle bracket. -/
def readName (cs : List Char) : Except Error (List Char × List Char) :=
  match splitFirst '>' cs with
  | none => .error .badGroupName
  | some (name, rest) =>
    match name with
    | [] => .error .badGroupName
    | c :: more =>
      if isNameChar true c && more.all (isNameChar false) then .ok (name, rest)
      else .error .badGroupName

/-- What an opening parenthesis opens. -/
inductive Opening
  | group (flags : Flags) (remembered : Bool) (name : Option (List Char))
  | setFlags (flags : Flags)

def readOpening (flags : Flags) (cs : List Char) : Except Error (Opening × List Char) := do
  match flags.skip cs with
  | '?' :: '=' :: _ => throw .lookAround
  | '?' :: '!' :: _ => throw .lookAround
  | '?' :: '<' :: '=' :: _ => throw .lookAround
  | '?' :: '<' :: '!' :: _ => throw .lookAround
  | '?' :: 'P' :: '<' :: rest =>
    let (name, rest) ← readName rest
    return (.group flags true (some name), rest)
  | '?' :: '<' :: rest =>
    let (name, rest) ← readName rest
    return (.group flags true (some name), rest)
  | '?' :: rest =>
    let (changed, seen, last, rest) ← readFlags flags true [] rest
    if last = ':' then return (.group changed false none, rest)
    if seen.isEmpty then throw .nothingToRepeat
    return (.setFlags changed, rest)
  | rest => return (.group flags true none, rest)

/-! ### Repetition -/

def decimal? (digits : List Char) : Option Nat :=
  if digits.isEmpty then none
  else
    let n := digits.foldl (fun n c => n * 10 + (c.toNat - 48)) 0
    if n < 4294967296 then some n else none

/-- A number with blanks around it. -/
def readDecimal (flags : Flags) : Nat → List Char → List Char → List Char × List Char
  | 0, digits, cs => (digits, cs)
  | n + 1, digits, cs =>
    match cs with
    | c :: rest =>
      if c.isDigit then readDecimal flags n (digits ++ [c]) (flags.skip rest)
      else (digits, cs.dropWhile Unicode.isWhiteSpace)
    | [] => (digits, [])

def readCount (flags : Flags) (cs : List Char) : Except Error (Nat × List Char) :=
  let cs := (flags.skip cs).dropWhile Unicode.isWhiteSpace
  let (digits, rest) := readDecimal flags (cs.length + 1) [] cs
  match decimal? digits with
  | some n => .ok (n, flags.skip rest)
  | none => .error .badRepetition

/-- A repetition in braces, after the opening one. -/
def readBounds (flags : Flags) (cs : List Char) :
    Except Error (Nat × Option Nat × List Char) := do
  let (least, rest) ← readCount flags cs
  match rest with
  | '\x7d' :: rest => return (least, some least, rest)
  | ',' :: rest =>
    match flags.skip rest with
    | '\x7d' :: rest => return (least, none, rest)
    | rest =>
      let (most, rest) ← readCount flags rest
      match rest with
      | '\x7d' :: rest =>
        if most < least then throw .badRepetition else return (least, some most, rest)
      | _ => throw .badRepetition
  | _ => throw .badRepetition

/-- Whether a repetition takes as much as it can, and what follows it. -/
def readGreed (flags : Flags) (cs : List Char) : Bool × List Char :=
  match cs with
  | '?' :: rest => (flags.swapGreed, rest)
  | cs => (!flags.swapGreed, cs)

/-- Repeats the last piece of the group in progress. -/
def Frame.repeatLast (f : Frame) (least : Nat) (most : Option Nat) (greedy : Bool) :
    Except Error Frame :=
  match f.pieces with
  | .expr e h :: rest =>
    .ok { f with pieces := .expr (e.repeated least most greedy) (h + 1) :: rest }
  | _ => .error .nothingToRepeat

/-! ### The whole expression -/

structure Reader where
  stack : List Frame
  frame : Frame
  flags : Flags
  /-- How many groups are remembered so far. -/
  groups : Nat
  names : List (List Char)

def Symbol.expr (flags : Flags) : Symbol → Except Error Expr
  | literal c => .ok (.ofSet (flags.fold (.single c)))
  | byte c =>
    if !flags.allScripts ∧ 128 ≤ c.toNat then .error .notUtf8
    else .ok (.ofSet (flags.fold (.single c)))
  | set s => .ok (.ofSet s)
  | anchor a => .ok (.anchor a)

def dotSet (flags : Flags) : Except Error CharSet :=
  if !flags.allScripts then .error .notUtf8
  else if flags.dotMatchesNewline then .ok .any
  else if flags.crlf then .ok (CharSet.ofList ['\r', '\n']).complement
  else .ok (CharSet.single '\n').complement

/-- Reads one construct, which starts with `c`. -/
def Reader.step (r : Reader) (c : Char) (rest : List Char) : Except Error (Reader × List Char) := do
  let flags := r.flags
  let add (e : Expr) (height : Nat) (rest : List Char) : Except Error (Reader × List Char) :=
    .ok ({ r with frame := r.frame.add (.expr e height) }, rest)
  let again (least : Nat) (most : Option Nat) (rest : List Char) :
      Except Error (Reader × List Char) := do
    let (greedy, rest) := readGreed flags rest
    return ({ r with frame := ← r.frame.repeatLast least most greedy }, rest)
  match c with
  | '(' =>
    let (opening, rest) ← readOpening flags rest
    match opening with
    | .setFlags changed =>
      return ({ r with frame := r.frame.add .flags, flags := changed }, rest)
    | .group inner remembered name =>
      let names := name.toList ++ r.names
      if name.any r.names.contains then throw .badGroupName
      let groups := if remembered then r.groups + 1 else r.groups
      let index := if remembered then some groups else none
      return (⟨r.frame :: r.stack, .start flags index, inner, groups, names⟩, rest)
  | ')' =>
    match r.stack with
    | [] => throw .unopenedGroup
    | outer :: stack =>
      let (e, h) := r.frame.close
      return (⟨stack, outer.add (.expr e (h + 1)), r.frame.outer, r.groups, r.names⟩, rest)
  | '|' =>
    let f := r.frame
    let frame := { f with alternatives := f.current :: f.alternatives, pieces := [] }
    return ({ r with frame }, rest)
  | '[' =>
    let (frame, rest) ← openClass flags rest
    let (v, rest) ← readClass flags (rest.length + 1) [] frame rest
    add (.ofSet v.set) v.height rest
  | '?' => again 0 (some 1) rest
  | '*' => again 0 none rest
  | '+' => again 1 none rest
  | '\x7b' =>
    let _ ← r.frame.repeatLast 0 none true
    let (least, most, rest) ← readBounds flags rest
    again least most (flags.skip rest)
  | '\\' =>
    let (symbol, rest) ← readEscape flags rest
    add (← symbol.expr flags) 0 rest
  | '.' => add (.ofSet (← dotSet flags)) 0 rest
  | '^' =>
    let anchor : Anchor := if flags.multiLine then .lineStart flags.crlf else .textStart
    add (.anchor anchor) 0 rest
  | '$' => add (.anchor (if flags.multiLine then .lineEnd flags.crlf else .textEnd)) 0 rest
  | c => add (← (Symbol.literal c).expr flags) 0 rest

def Reader.run : Nat → Reader → List Char → Except Error Reader
  | 0, r, _ => .ok r
  | n + 1, r, cs =>
    match r.flags.skip cs with
    | [] => .ok r
    | c :: rest =>
      match r.step c rest with
      | .error e => .error e
      | .ok (r, rest) => r.run n rest

/-- The expression that a text spells, and the height of the tree it is read as. -/
def read (text : String) : Except Error (Expr × Nat) := do
  let cs := text.toList
  let r ← Reader.run (cs.length + 1) ⟨[], .start .initial none, .initial, 0, []⟩ cs
  if !r.stack.isEmpty then throw .unclosedGroup
  return r.frame.close

/-- The deepest tree of groups, repetitions, alternatives and classes that is accepted. -/
def maxHeight : Nat := 250

/-- The expression that a text spells, if it is within the limits. -/
def parse (text : String) : Except Error Expr := do
  let (e, h) ← read text
  if maxHeight < h then throw .tooDeep
  if !Automaton.fits .utf8 [e] then throw .tooLarge
  return e

end LintChain.Regex

namespace LintChain

/-- A regular expression that compiles, with the text it was compiled from. -/
structure Regex where
  text : String
  pattern : Regex.Pattern Regex.Atom

namespace Regex

def compile (text : String) : Except Error Regex :=
  (parse text).map fun e => ⟨text, e.pattern⟩

/-- Whether some part of `subject` matches. -/
def isMatch (r : Regex) (subject : String) : Bool := r.pattern.isMatch subject.toList

end Regex

end LintChain

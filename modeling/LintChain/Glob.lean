import LintChain.Path
import LintChain.Regex.Parser
import LintChain.Text.Octets

/-!
Glob patterns, matched against a whole path byte by byte. A star and a question mark also match a
slash; two stars stand for any number of directories where they fill a whole component, and are
like one star elsewhere. A glob that asks for a file name or an extension does not match a path that
ends in `..`, which has neither. A glob stands for a regular expression, and several globs are a set
only if the expressions that are needed to match them are within the limits.
-/

namespace LintChain.Glob

/-- Why a text is no glob. -/
inductive Error
  | unclosedClass
  | unclosedAlternates
  | unopenedAlternates
  | invalidRange (first last : Char)
  | danglingEscape
  deriving DecidableEq

/-- The message in the pieces that it is written in. -/
def Error.pieces : Error → List String
  | unclosedClass => ["unclosed character class; missing ']'"]
  | unclosedAlternates =>
    ["unclosed alternate group; missing '\x7d' (maybe escape '\x7b' with '[\x7b]'?)"]
  | unopenedAlternates =>
    ["unopened alternate group; missing '\x7b' (maybe escape '\x7d' with '[\x7d]'?)"]
  | invalidRange first last =>
    ["invalid range; '", String.singleton first, "' > '", String.singleton last, "'"]
  | danglingEscape => ["dangling '\\'"]

inductive Token
  | literal (c : Char)
  | anyByte
  | star
  /-- Directories before the rest of the path, or none. -/
  | directoriesFirst
  /-- A slash and anything after it. -/
  | directoriesLast
  /-- A slash, or directories between two slashes. -/
  | directoriesBetween
  | oneOf (negated : Bool) (ranges : List (Char × Char))
  | alternates (branches : List (List Token))

/-! ### Reading -/

/-- The branches in progress, innermost first, each with its tokens last first; the numbers of
branches that were open when each group was opened; and the characters before and after the
place reached. -/
structure Reader where
  branches : List (List Token)
  groups : List Nat
  before : Option Char
  rest : List Char

def Reader.push (r : Reader) (t : Token) : Reader :=
  match r.branches with
  | [] => { r with branches := [[t]] }
  | branch :: others => { r with branches := (t :: branch) :: others }

/-- The ranges of a class, last one first, a range that waits for its end marked. -/
structure ClassReader where
  ranges : List (Char × Char)
  inRange : Bool

def ClassReader.add (r : ClassReader) (c : Char) : Except Error ClassReader :=
  match r.inRange, r.ranges with
  | true, (low, _) :: others =>
    if c < low then .error (.invalidRange low c) else .ok ⟨(low, c) :: others, false⟩
  | _, ranges => .ok ⟨(c, c) :: ranges, false⟩

def ClassReader.finish (r : ClassReader) : List (Char × Char) :=
  (if r.inRange then ('-', '-') :: r.ranges else r.ranges).reverse

/-- Reads the items of a class up to the bracket that closes it. -/
def readItems (r : ClassReader) (first : Bool) :
    List Char → Except Error (List (Char × Char) × List Char)
  | [] => .error .unclosedClass
  | c :: rest =>
    if c = ']' ∧ ¬ first then .ok (r.finish, rest)
    else if c = '-' ∧ ¬ first ∧ ¬ r.inRange then readItems { r with inRange := true } false rest
    else
      match r.add c with
      | .ok r => readItems r false rest
      | .error e => .error e

def readClass (cs : List Char) : Except Error (Token × List Char) :=
  let (negated, cs) := match cs with
    | '!' :: rest => (true, rest)
    | '^' :: rest => (true, rest)
    | _ => (false, cs)
  (readItems ⟨[], false⟩ true cs).map fun (ranges, rest) => (.oneOf negated ranges, rest)

/-- Two stars; `r.rest` is what follows them and `r.before` what precedes them. -/
def Reader.doubleStar (r : Reader) : Reader :=
  let two := (r.push .star).push .star
  let branch := r.branches.headD []
  let nested := 2 ≤ r.branches.length
  if branch.isEmpty then
    match r.rest with
    | [] => r.push .directoriesFirst
    | '/' :: rest => { r.push .directoriesFirst with rest := rest, before := some '*' }
    | _ => two
  else if r.before ≠ some '/' ∧ ¬ (nested ∧ (r.before = some ',' ∨ r.before = some '\x7b')) then two
  else
    let replace (last : Token) (r : Reader) : Reader :=
      let kept := match branch.head? with
        | some .directoriesFirst => .directoriesFirst
        | some .directoriesLast => .directoriesLast
        | _ => last
      { r with branches := (kept :: branch.tail) :: r.branches.tail }
    match r.rest with
    | [] => replace .directoriesLast r
    | '/' :: rest => replace .directoriesBetween { r with rest := rest }
    | c :: _ => if nested ∧ (c = ',' ∨ c = '\x7d') then replace .directoriesLast r else two

/-- Reads one construct, which starts with `c`; `r.rest` is what follows it. -/
def Reader.step (r : Reader) (c : Char) : Except Error Reader := do
  let plain (t : Token) : Reader := { r.push t with before := some c }
  match c with
  | '?' => return plain .anyByte
  | '*' =>
    match r.rest with
    | '*' :: rest =>
      let next := Reader.doubleStar { r with rest := rest }
      let consumed := rest.length - next.rest.length
      return { next with before := if consumed = 0 then some '*' else some '/' }
    | _ => return plain .star
  | '[' =>
    let (t, rest) ← readClass r.rest
    return { r.push t with before := some ']', rest := rest }
  | '\x7b' =>
    return { r with
      groups := r.branches.length :: r.groups, branches := [] :: r.branches, before := some c }
  | '\x7d' =>
    match r.groups with
    | [] => throw .unopenedAlternates
    | opened :: groups =>
      let count := r.branches.length - opened
      let inner := (r.branches.take count).reverse.map List.reverse
      let outer : Reader := ⟨r.branches.drop count, groups, some c, r.rest⟩
      return outer.push (.alternates inner)
  | ',' =>
    if r.groups.isEmpty then return plain (.literal ',')
    return { r with branches := [] :: r.branches, before := some c }
  | '\\' =>
    match r.rest with
    | [] => throw .danglingEscape
    | e :: rest => return { r.push (.literal e) with before := some e, rest := rest }
  | c => return plain (.literal c)

def Reader.run : Nat → Reader → Except Error Reader
  | 0, r => .ok r
  | n + 1, r =>
    match r.rest with
    | [] => .ok r
    | c :: rest =>
      match Reader.step { r with rest := rest } c with
      | .ok r => r.run n
      | .error e => .error e

def tokens (text : String) : Except Error (List Token) := do
  let cs := text.toList
  let r ← Reader.run (cs.length + 1) ⟨[[]], [], none, cs⟩
  match r.branches with
  | [branch] => return branch.reverse
  | _ => throw .unclosedAlternates

/-! ### Names and extensions -/

def Token.literal? : Token → Option Char
  | .literal c => some c
  | _ => none

/-- Whether the tokens, the last one first, begin with the characters of an extension. -/
def endsInExtension : List Token → Bool
  | .literal c :: rest => c = '.' || (c ≠ '/' && endsInExtension rest)
  | _ => false

def isExtension (text : List Char) : Bool :=
  match text with
  | '.' :: rest => rest.all fun c => c ≠ '.' && c ≠ '/'
  | _ => false

/-- Whether the tokens ask for a file name in any directory or for an extension. -/
def needsName (ts : List Token) : Bool :=
  let (inAnyDirectory, ts') := match ts with
    | .directoriesFirst :: rest => (true, rest)
    | _ => (false, ts)
  let (starred, ts') := match ts' with
    | .star :: rest => (true, rest)
    | _ => (false, ts')
  match ts'.mapM Token.literal? with
  | some text =>
    if starred then isExtension text else inAnyDirectory && text ≠ [] && !text.contains '/'
  | none => endsInExtension ts.reverse

/-- The text that a path has to start with, if that is all there is to a glob. -/
def beginning? (ts : List Token) : Option (List Char) :=
  match ts.getLast? with
  | some .star => ts.dropLast.mapM Token.literal?
  | some .directoriesLast => (ts.dropLast.mapM Token.literal?).map (· ++ ['/'])
  | _ => ts.mapM Token.literal?

/-- The text that a path has to end in, or be but for a slash in front, if that is all. -/
def ending? (ts : List Token) : Option (List Char) :=
  let (slash, ts) := match ts with
    | .directoriesFirst :: .literal c :: rest => (['/'], Token.literal c :: rest)
    | .directoriesFirst :: rest => ([], rest)
    | ts => ([], ts)
  let ts := match ts with
    | .star :: rest => rest
    | ts => ts
  (ts.mapM Token.literal?).map (slash ++ ·)

/-- What a set matches a glob by. -/
inductive Strategy
  /-- A text that paths are compared with. -/
  | text
  /-- The expression, and the extension that a path must have before. -/
  | requiredExtension
  /-- The expression. -/
  | expression
  deriving DecidableEq

def strategyFor (ts : List Token) : Strategy :=
  if (beginning? ts).any (· ≠ []) || (ending? ts).any (fun text => text ≠ [] && text ≠ ['/']) then
    .text
  else if endsInExtension ts.reverse then .requiredExtension
  else .expression

/-! ### Expressions -/

open Regex (CharSet Expr)

/-- A piece of the regular expression for a glob, which is about bytes: how it is written, what it
means, and the height of the tree it is read as. -/
structure Piece where
  text : String
  expr : Expr
  height : Nat

namespace Piece

/-- How a byte is written: as itself if it is ASCII, with a backslash if it would mean something
else, and by its number otherwise. -/
def escape (b : Char) : String :=
  if 128 ≤ b.toNat then "\\x" ++ String.ofList (Nat.toDigits 16 b.toNat)
  else if "\\.+*?()|[]\x7b\x7d^$#&-~".toList.contains b then "\\" ++ String.singleton b
  else String.singleton b

def byte (b : Char) : Piece := ⟨escape b, .literal [b], 0⟩

def octets : CharSet := Unicode.Ranges.range 0 255

def anyByte : Piece := ⟨".", .oneOf octets, 0⟩

def anything : Piece := ⟨".*", .many anyByte.expr 0 none true, 1⟩

def slash : Piece := byte '/'

def slashOrNot : Piece := ⟨slash.text ++ "?", .many slash.expr 0 (some 1) true, 1⟩

/-- The bytes or ranges of bytes that a range of characters is read as: those between the last byte
of its first character and the first byte of its last one, and the other bytes of the two. -/
def classItems (range : Char × Char) : List (Char × Char) :=
  let first := Text.Octets.ofString (String.singleton range.1)
  let last := Text.Octets.ofString (String.singleton range.2)
  let single := fun b : Char => (b, b)
  if range.1 = range.2 then first.map single
  else
    first.dropLast.map single ++ (first.getLast?.toList.zip last.head?.toList) ++
      last.tail.map single

def itemText (item : Char × Char) : String :=
  if item.1 = item.2 then escape item.1 else escape item.1 ++ "-" ++ escape item.2

def oneOf (negated : Bool) (ranges : List (Char × Char)) : Piece :=
  let items := ranges.flatMap classItems
  let set := Unicode.Ranges.unions (items.map fun item => CharSet.range item.1 item.2)
  ⟨"[" ++ (if negated then "^" else "") ++ String.join (items.map itemText) ++ "]",
    .ofSet (if negated then set.complement.inter octets else set), if items.length ≤ 1 then 1 else 2⟩

/-- One piece after the other. -/
def joined (ps : List Piece) : Piece :=
  ⟨String.join (ps.map (·.text)), .concatAll (ps.map (·.expr)),
    Regex.joinHeights (ps.map (·.height))⟩

/-- A group of alternatives. -/
def group (branches : List (List Piece)) : Piece :=
  let all := branches.map joined
  ⟨"(?:" ++ "|".intercalate (all.map (·.text)) ++ ")", .altAll (all.map (·.expr)),
    Regex.joinHeights (all.map (·.height)) + 1⟩

/-- The expression for a whole path, by the pieces between its ends. A change of flags stands in
front. -/
def whole (ps : List Piece) : Piece :=
  ⟨"(?-u)^" ++ String.join (ps.map (·.text)) ++ "$",
    .concatAll (.anchor .textStart :: ps.map (·.expr) ++ [.anchor .textEnd]),
    (ps.map (·.height)).foldl max 0 + 1⟩

end Piece

mutual

def Token.pieces : Token → List Piece
  | .literal c => (Text.Octets.ofString (String.singleton c)).map .byte
  | .anyByte => [.anyByte]
  | .star => [.anything]
  | .directoriesFirst => [.group [[.slashOrNot], [.anything, .slash]]]
  | .directoriesLast => [.slash, .anything]
  | .directoriesBetween => [.group [[.slash], [.slash, .anything, .slash]]]
  | .oneOf negated ranges => [.oneOf negated ranges]
  | .alternates branches =>
    match branchPieces branches with
    | [] => []
    | branches => [.group branches]

def tokensPieces : List Token → List Piece
  | [] => []
  | t :: rest => t.pieces ++ tokensPieces rest

/-- Without the branches that nothing is written for. -/
def branchPieces : List (List Token) → List (List Piece)
  | [] => []
  | branch :: rest =>
    match tokensPieces branch with
    | [] => branchPieces rest
    | pieces => pieces :: branchPieces rest

end

def wholePiece (ts : List Token) : Piece :=
  match ts with
  | [.directoriesFirst] => .whole [.anything]
  | ts => .whole (tokensPieces ts)

end LintChain.Glob

namespace LintChain

/-- A glob that compiles, with the text it was compiled from. -/
structure Glob where
  text : String
  piece : Glob.Piece
  strategy : Glob.Strategy
  /-- Whether it asks for a file name or an extension. -/
  asksForName : Bool

namespace Glob

def compile (text : String) : Except Error Glob :=
  (tokens text).map fun ts => ⟨text, wholePiece ts, strategyFor ts, needsName ts⟩

def endsInParent (path : String) : Bool := (Path.pieces ⟨path⟩).getLast? = some ['.', '.']

/-- Whether the glob matches the whole of a path. -/
def isMatch (g : Glob) (path : String) : Bool :=
  !(g.asksForName && endsInParent path) &&
    g.piece.expr.pattern.isWholeMatch (Text.Octets.ofString path)

/-! ### Sets -/

/-- Why the expressions of some globs do not make up a set. -/
inductive SetFault
  /-- The expression at a place among them is nested too deeply. -/
  | tooDeep (index : Nat)
  /-- Together they take too much room. -/
  | tooLarge
  deriving DecidableEq

/-- What went wrong with a set, and with which expression, if it is built alone. -/
structure SetError where
  expression? : Option String
  fault : SetFault
  deriving DecidableEq

/-- The message in the pieces that it is written in. -/
def SetError.pieces (e : SetError) : List String :=
  let reason := match e.fault with
    | .tooDeep index => "error parsing pattern " ++ toString index
    | .tooLarge => "error building NFA"
  match e.expression? with
  | some text => ["error parsing glob '", text, "': ", reason]
  | none => [reason]

/-- Builds what matches some expressions at once. -/
def buildAll (ps : List Piece) : Except SetFault Unit :=
  match ps.findIdx? fun p => Regex.maxHeight < p.height with
  | some index => .error (.tooDeep index)
  | none => if Regex.Automaton.fits .octets (ps.map (·.expr)) then .ok () else .error .tooLarge

/-- Makes globs a set. The expressions of those that require an extension are built one by one, and
those of the globs that nothing else is known of together. -/
def buildSet (globs : List Glob) : Except SetError (List Glob) := do
  (globs.filter (·.strategy = .requiredExtension)).forM fun g =>
    (buildAll [g.piece]).mapError fun fault => ⟨some g.piece.text, fault⟩
  let others := globs.filter (·.strategy = .expression)
  (buildAll (others.map (·.piece))).mapError fun fault => ⟨none, fault⟩
  return globs

end Glob

end LintChain

import LintChain.Regex.ByteRange
import LintChain.Regex.Expr
import Std.Data.HashMap

/-!
The room that an automaton for an expression takes. An automaton reads bytes, from the start of a
text to its end or the other way; a pattern is refused when one of the two gets too large. The
numbers of states matter too, since equal ends of the spellings of a set are shared, and which of
them are remembered depends on the numbers.
-/

namespace LintChain.Regex

namespace Automaton

/-- What the states built so far take: their number, and the bytes that lists of targets add. -/
structure Room where
  states : Nat
  lists : Nat

def Room.bytes (r : Room) : Nat := 32 * r.states + r.lists

/-- The most bytes that an automaton may take. -/
def limit : Nat := 10485760

def Room.isFull (r : Room) : Bool := limit < r.bytes

/-- One more state with a list of targets that takes so many bytes. -/
def Room.add (r : Room) (list : Nat) : Room := ⟨r.states + 1, r.lists + list⟩

def Room.extend (r : Room) (list : Nat) : Room := { r with lists := r.lists + list }

/-- A part of an automaton: whether it ends in a fork, to which a target more is added when another
part follows, and the room that it takes beyond what others take. -/
structure Part where
  forks : Bool
  build : Room → Room

/-- What it takes to lead from the end of a part on. -/
def Part.exit (p : Part) : Nat := if p.forks then 4 else 0

/-! ### Sets -/

/-- A step over a byte of a range to the state of a number. -/
structure Step where
  bytes : ByteRange
  target : Nat
  deriving DecidableEq

def mix (h : UInt64) (n : Nat) : UInt64 := (h ^^^ n.toUInt64) * 1099511628211

def hashStart : UInt64 := 14695981039346656037

def hashSteps (steps : List Step) : UInt64 :=
  steps.foldl (fun h s => mix (mix (mix h s.bytes.low) s.bytes.high) s.target) hashStart

def hashBack (s : Step) : UInt64 :=
  mix (mix (mix hashStart s.target) s.bytes.low) s.bytes.high

/-- States remembered at places by their steps; a later one may take the place of an earlier one. -/
abbrev Memory := Std.HashMap Nat (List Step × Nat)

/-- The number of the state with these steps, which is built unless it is remembered. -/
def share (place list : Nat) (steps : List Step) (room : Room) (memory : Memory) :
    Nat × Room × Memory :=
  let known := match memory[place]? with
    | some (found, number) => if found = steps then some number else none
    | none => none
  match known with
  | some number => (number, room, memory)
  | none => (room.states, room.add list, memory.insert place (steps, room.states))

/-- A state that may still get steps: those it has, last first, and the bytes of the one whose
target is not built yet. -/
structure Pending where
  steps : List Step
  bytes : Option ByteRange

/-- The state with its last step leading to a number. -/
def Pending.close (p : Pending) (target : Nat) : Pending :=
  match p.bytes with
  | some bytes => ⟨⟨bytes, target⟩ :: p.steps, none⟩
  | none => p

def Pending.build (p : Pending) (room : Room) (memory : Memory) : Nat × Room × Memory :=
  let steps := p.steps.reverse
  share ((hashSteps steps).toNat % 10000) (8 * steps.length) steps room memory

/-- The work on a set: the pending states on the way through the last spelling, first one first. -/
structure Spelling where
  room : Room
  memory : Memory
  path : List Pending

/-- Builds pending states from the last one on; the result is the target of the one before. -/
def buildPath (final : Nat) : List Pending → Room → Memory → Nat × Room × Memory
  | [], room, memory => (final, room, memory)
  | p :: rest, room, memory =>
    let (target, room, memory) := buildPath final rest room memory
    (p.close target).build room memory

/-- How far a spelling keeps to the path of the one before. -/
def keptLength : List ByteRange → List Pending → Nat
  | b :: bs, p :: ps => if p.bytes = some b then keptLength bs ps + 1 else 0
  | _, _ => 0

/-- Builds what lies behind the first `kept` steps of the path. -/
def Spelling.closeBehind (final kept : Nat) (s : Spelling) : Spelling :=
  let (target, room, memory) := buildPath final (s.path.drop (kept + 1)) s.room s.memory
  let last := (s.path[kept]?).map fun p => p.close target
  ⟨room, memory, s.path.take kept ++ last.toList⟩

/-- Appends a spelling, which comes after the ones before. -/
def Spelling.append (final : Nat) (s : Spelling) (spelled : List ByteRange) : Spelling :=
  let kept := keptLength spelled s.path
  let s := s.closeBehind final kept
  let fork := (s.path[kept]?).getD ⟨[], none⟩
  let suffix := spelled.drop kept
  let opened := (suffix.drop 1).map fun b => (⟨[], some b⟩ : Pending)
  { s with path := s.path.take kept ++ { fork with bytes := suffix.head? } :: opened }

/-- A set read forwards: a state for each beginning, and equal endings shared. -/
def buildForwards (spellings : List (List ByteRange)) (room : Room) : Room :=
  let final := room.states
  let start : Spelling := ⟨room.add 0, ∅, [⟨[], none⟩]⟩
  let s := (spellings.foldl (Spelling.append final) start).closeBehind final 0
  (((s.path.head?).getD ⟨[], none⟩).build s.room s.memory).2.1

/-- A set read backwards: a fork with a chain of states for each spelling, equal beginnings of the
spellings shared. -/
def buildBackwards (spellings : List (List ByteRange)) (room : Room) : Room :=
  let final := room.states + 1
  let link (s : Nat × Room × Memory) (bytes : ByteRange) : Nat × Room × Memory :=
    let step : Step := ⟨bytes, s.1⟩
    share ((hashBack step).toNat % 1000) 0 [step] s.2.1 s.2.2
  let chain (s : Room × Memory) (spelled : List ByteRange) : Room × Memory :=
    let (_, room, memory) := spelled.foldl link (final, s.1, s.2)
    (room.extend 4, memory)
  (spellings.foldl chain ((room.add 0).add 0, ∅)).1

/-- What a character of an expression stands for. -/
inductive Coding
  /-- The bytes that spell it in UTF-8. -/
  | utf8
  /-- The byte of its number. -/
  | octets

def Coding.spell : Coding → List Char → List Nat
  | utf8, text => text.flatMap fun c => (String.utf8EncodeChar c).map UInt8.toNat
  | octets, text => text.map Char.toNat

/-- A set of single bytes takes one state with all its steps and one more, any other set more. -/
def ofSet (coding : Coding) (backwards : Bool) (s : CharSet) : Part :=
  let single := match coding with
    | .utf8 => s.isAscii
    | .octets => true
  if single then ⟨false, fun room => (room.add 0).add (8 * s.bounds.length)⟩
  else
    let spellings := ByteRange.ofSet s
    ⟨false, if backwards then buildBackwards spellings else buildForwards spellings⟩

/-! ### Literals -/

/-- The beginnings of literals that are tried in order: the bytes that may follow, in chunks, last
one first; a chunk ends where a literal ends, for what comes later is tried later. -/
inductive Trie
  | node (chunks : List (List (Nat × Trie)))

namespace Trie

def leaf : Trie := node [[]]

def isLeaf : Trie → Bool
  | node chunks => chunks.all List.isEmpty

/-- Ends a literal here. A literal that ended here before anything followed needs no second end. -/
def finish : Trie → Trie
  | node chunks =>
    if chunks.all List.isEmpty ∧ 2 ≤ chunks.length then node chunks else node ([] :: chunks)

def insert : List Nat → Trie → Trie
  | [], t => t.finish
  | b :: rest, node chunks =>
    let last := chunks.headD []
    let inner := ((last.find? fun e => e.1 == b).map (·.2)).getD leaf
    node (((b, insert rest inner) :: last.filter fun e => e.1 != b) :: chunks.drop 1)

mutual

/-- The states for a beginning: one for each chunk, and a fork to the chunks and the ends. -/
def build : Trie → Room → Room
  | node chunks, room =>
    let room := buildChunks chunks room
    room.add (4 * (chunks.length - 1 + (chunks.filter fun c => !c.isEmpty).length))

def buildChunks : List (List (Nat × Trie)) → Room → Room
  | [], room => room
  | chunk :: rest, room =>
    let room := buildEntries chunk (buildChunks rest room)
    match chunk with
    | [] => room
    | [_] => room.add 0
    | _ => room.add (8 * chunk.length)

def buildEntries : List (Nat × Trie) → Room → Room
  | [], room => room
  | (_, t) :: rest, room =>
    let room := buildEntries rest room
    if t.isLeaf then room else t.build room

end

end Trie

/-- The texts of alternatives that are all literals. -/
def literals (coding : Coding) : List Expr → Option (List (List Nat))
  | [] => some []
  | .literal text :: rest => (literals coding rest).map (coding.spell text :: ·)
  | _ :: _ => none

def ofLiterals (backwards : Bool) (texts : List (List Nat)) : Part :=
  let trie := texts.foldl (fun t text => t.insert (if backwards then text.reverse else text))
    Trie.leaf
  ⟨false, fun room => trie.build (room.add 0)⟩

/-! ### Expressions -/

/-- `n` times a part after what is built, which ends in a fork or not; no more than fit. -/
def Part.again (p : Part) (exit : Nat) : Nat → Room → Room
  | 0, room => room
  | n + 1, room =>
    if room.isFull then room else Part.again p exit n ((p.build room).extend exit)

/-- Exactly `n` times. -/
def Part.exactly (p : Part) : Nat → Part
  | 0 => ⟨false, fun room => room.add 0⟩
  | n + 1 => ⟨p.forks, fun room => p.again p.exit n (p.build room)⟩

def Part.optional (p : Part) : Part :=
  ⟨false, fun room => ((p.build (room.add 8)).add 0).extend p.exit⟩

/-- Up to `n` times more after `before`, each behind a fork that may leave for the end. -/
def Part.bounded (p : Part) (least n : Nat) : Part :=
  let before := p.exactly least
  let round : Part := ⟨p.forks, fun room => p.build (room.add 8)⟩
  let after : Nat → Room → Room := fun n room => round.again p.exit n room
  ⟨false, fun room => (after n ((before.build room).add before.exit))⟩

def Part.unbounded (p : Part) (least : Nat) (mayBeEmpty : Bool) : Part :=
  match least with
  | 0 =>
    if mayBeEmpty then
      ⟨false, fun room => (((p.build room).add (8 + p.exit)).add 8).add 0⟩
    else ⟨true, fun room => (p.build (room.add 4)).extend p.exit⟩
  | 1 => ⟨true, fun room => (p.build room).add (4 + p.exit)⟩
  | least + 2 =>
    let before := p.exactly (least + 1)
    ⟨true, fun room => (p.build (before.build room)).add (4 + before.exit + p.exit)⟩

def Part.repeated (p : Part) (least : Nat) (most : Option Nat) (mayBeEmpty : Bool) : Part :=
  match most with
  | none => p.unbounded least mayBeEmpty
  | some most =>
    if least = 0 ∧ most = 1 then p.optional
    else if least = most then p.exactly least
    else p.bounded least (most - least)

/-- One part after the other; the exit of a part is taken by the next one. -/
def inOrder : List Part → Part
  | [] => ⟨false, fun room => room.add 0⟩
  | [p] => p
  | p :: rest =>
    let after := inOrder rest
    ⟨after.forks, fun room => after.build ((p.build room).extend p.exit)⟩

/-- A fork to parts that end in one state, both built after the first two of them. -/
def inParallel : List Part → Part
  | [] => ⟨false, fun room => room.add 0⟩
  | [p] => p
  | p :: q :: rest =>
    let exits := (p :: q :: rest).foldl (fun n r => n + r.exit + 4) 0
    ⟨false, fun room =>
      rest.foldl (fun room r => r.build room) ((q.build (p.build room)).add exits |>.add 0)⟩

mutual

def ofExpr (coding : Coding) (backwards : Bool) : Expr → Part
  | .empty => ⟨false, fun room => room.add 0⟩
  | .literal text =>
    ⟨false, fun room => ⟨room.states + (coding.spell text).length, room.lists⟩⟩
  | .oneOf s => ofSet coding backwards s
  | .anchor _ => ⟨false, fun room => room.add 0⟩
  | .many e least most _ =>
    (ofExpr coding backwards e).repeated least most (e.minLength.getD 0 == 0)
  | .group _ e =>
    let inner := ofExpr coding backwards e
    if backwards then inner
    else ⟨false, fun room => (inner.build (room.add 0)).add inner.exit⟩
  | .concat es =>
    let parts := ofExprs coding backwards es
    inOrder (if backwards then parts.reverse else parts)
  | .alt es =>
    match literals coding es with
    | some texts => ofLiterals backwards texts
    | none => inParallel (ofExprs coding backwards es)

def ofExprs (coding : Coding) (backwards : Bool) : List Expr → List Part
  | [] => []
  | e :: rest => ofExpr coding backwards e :: ofExprs coding backwards rest

end

/-- An expression up to the state in which it has matched. -/
def ofWhole (coding : Coding) (backwards : Bool) (e : Expr) : Part :=
  let whole := ofExpr coding backwards (.group 0 e)
  ⟨false, fun room => ((whole.build room).extend whole.exit).add 0⟩

/-- The automaton for some expressions that are looked for together. Unless every match starts at
the start of the text, or ends at its end when it is read backwards, a loop over any bytes goes
before it. -/
def room (coding : Coding) (backwards : Bool) (es : List Expr) : Room :=
  let anchored :=
    es.all fun e => if backwards then e.endsAt .textEnd else e.startsAt .textStart
  let start : Room := if anchored then ⟨1, 0⟩ else ⟨3, 16⟩
  (inParallel (es.map (ofWhole coding backwards))).build start

/-- Whether both automata for some expressions fit. -/
def fits (coding : Coding) (es : List Expr) : Bool :=
  !(room coding false es).isFull && !(room coding true es).isFull

end Automaton

end LintChain.Regex

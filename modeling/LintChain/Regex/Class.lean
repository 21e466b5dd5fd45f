import LintChain.Regex.Symbol

/-!
Bracketed classes: items side by side, classes within classes, and operations between them. Where
case is ignored a set is closed under a change of case before it is complemented. Where only ASCII
counts no set within a class may hold more than that, though the class as a whole would not.
-/

namespace LintChain.Regex

/-- A set with the height of the tree it was written as. -/
structure ClassValue where
  set : CharSet
  height : Nat

/-- One level of a bracketed class: whether it is negated, the operand before with the operation
that waits for the next one, and the items of the operand in progress. -/
structure ClassFrame where
  negated : Bool
  waiting : Option ((CharSet → CharSet → CharSet) × ClassValue)
  items : CharSet
  count : Nat
  height : Nat

namespace ClassFrame

def start (negated : Bool) : ClassFrame := ⟨negated, none, .none, 0, 0⟩

def add (f : ClassFrame) (v : ClassValue) : ClassFrame :=
  { f with items := f.items.union v.set, count := f.count + 1, height := max f.height v.height }

/-- The items of the operand in progress, which are one more level if there are several. -/
def operand (f : ClassFrame) : ClassValue :=
  ⟨f.items, if 2 ≤ f.count then f.height + 1 else f.height⟩

/-- The operand in progress, joined to the operands before it. -/
def value (flags : Flags) (f : ClassFrame) : ClassValue :=
  match f.waiting with
  | none => f.operand
  | some (op, lhs) =>
    let rhs := f.operand
    ⟨op (flags.fold lhs.set) (flags.fold rhs.set), max lhs.height rhs.height + 1⟩

def operate (flags : Flags) (f : ClassFrame) (op : CharSet → CharSet → CharSet) : ClassFrame :=
  { start f.negated with waiting := some (op, f.value flags) }

end ClassFrame

/-- A set as it stands in the pattern: up to case, and then complemented or not. -/
def Flags.close (flags : Flags) (negated : Bool) (s : CharSet) : Except Error CharSet :=
  let s := flags.fold s
  let s := if negated then s.complement else s
  if flags.allScripts || s.isAscii then .ok s else .error .notUtf8

def ClassFrame.close (flags : Flags) (f : ClassFrame) : Except Error ClassValue := do
  let v := f.value flags
  return ⟨← flags.close f.negated v.set, v.height + 1⟩

/-! ### Reading -/

/-- Hyphens right after the opening of a class stand for themselves. -/
def leadingHyphens (flags : Flags) (f : ClassFrame) : Nat → List Char → ClassFrame × List Char
  | 0, cs => (f, cs)
  | n + 1, cs =>
    match cs with
    | '-' :: rest => leadingHyphens flags (f.add ⟨.single '-', 0⟩) n (flags.skip rest)
    | _ => (f, cs)

/-- What follows an opening bracket up to the first proper item. -/
def openClass (flags : Flags) (cs : List Char) : Except Error (ClassFrame × List Char) := do
  let cs := flags.skip cs
  let (negated, cs) := match cs with
    | '^' :: rest => (true, flags.skip rest)
    | _ => (false, cs)
  let (frame, after) := leadingHyphens flags (.start negated) cs.length cs
  match after with
  | [] => throw .unclosedClass
  | ']' :: rest =>
    if frame.count = 0 then
      let rest := flags.skip rest
      if rest.isEmpty then throw .unclosedClass
      return (frame.add ⟨.single ']', 0⟩, rest)
    else return (frame, after)
  | _ => return (frame, after)

/-- A set between colons and whether it is negated, after its opening bracket. -/
def asciiClass? (cs : List Char) : Option (CharSet × Bool × List Char) :=
  match cs with
  | ':' :: rest =>
    let (negated, rest) := match rest with
      | '^' :: rest => (true, rest)
      | _ => (false, rest)
    match splitFirst ':' rest with
    | some (name, ']' :: after) =>
      (CharSet.ascii? (String.ofList name)).map fun s => (s, negated, after)
    | _ => none
  | _ => none

def readClassItem (flags : Flags) (cs : List Char) : Except Error (Symbol × List Char) :=
  match cs with
  | '\\' :: rest => readEscape flags rest
  | c :: rest => .ok (.literal c, rest)
  | [] => .error .unclosedClass

def Symbol.classChar (flags : Flags) : Symbol → Except Error Char
  | literal c => if !flags.allScripts ∧ 128 ≤ c.toNat then .error .notUtf8 else .ok c
  | byte c => if !flags.allScripts ∧ 128 ≤ c.toNat then .error .notUtf8 else .ok c
  | _ => .error .badClassItem

def Symbol.classSet (flags : Flags) : Symbol → Except Error CharSet
  | set s => .ok s
  | anchor _ => .error .badClassItem
  | symbol => (symbol.classChar flags).map CharSet.single

/-- The character after a hyphen, blanks aside where they are ignored. A comment does not go on to
the end of its line here: the first character in it counts. -/
def afterHyphen (flags : Flags) (cs : List Char) : Option Char :=
  if flags.ignoreBlanks then
    let text := cs.dropWhile Unicode.isWhiteSpace
    match text with
    | '#' :: comment =>
      ((comment.dropWhile Unicode.isWhiteSpace).head?).orElse fun _ => cs.head?
    | [] => cs.head?
    | c :: _ => some c
  else cs.head?

/-- A single item or a range. -/
def readClassRange (flags : Flags) (cs : List Char) : Except Error (CharSet × List Char) := do
  let (first, rest) ← readClassItem flags cs
  match flags.skip rest with
  | [] => throw .unclosedClass
  | '-' :: after =>
    let mark := afterHyphen flags after
    if mark = some ']' ∨ mark = some '-' then
      return (← first.classSet flags, flags.skip rest)
    match flags.skip after with
    | [] => throw .unclosedClass
    | more =>
      let (last, rest) ← readClassItem flags more
      let low ← first.classChar flags
      let high ← last.classChar flags
      if high < low then throw .badClassRange
      return (.range low high, rest)
  | rest => return (← first.classSet flags, rest)

/-- Reads up to the bracket that closes the outermost class. -/
def readClass (flags : Flags) :
    Nat → List ClassFrame → ClassFrame → List Char → Except Error (ClassValue × List Char)
  | 0, _, _, _ => .error .unclosedClass
  | n + 1, stack, frame, cs =>
    match flags.skip cs with
    | [] => .error .unclosedClass
    | '[' :: rest =>
      match asciiClass? rest with
      | some (s, negated, after) => do
        let s ← flags.close negated s
        readClass flags n stack (frame.add ⟨s, 0⟩) after
      | none => do
        let (inner, after) ← openClass flags rest
        readClass flags n (frame :: stack) inner after
    | ']' :: rest => do
      let v ← frame.close flags
      match stack with
      | [] => return (v, rest)
      | outer :: stack => readClass flags n stack (outer.add v) rest
    | '&' :: '&' :: rest =>
      readClass flags n stack (frame.operate flags Unicode.Ranges.inter) rest
    | '-' :: '-' :: rest =>
      readClass flags n stack (frame.operate flags Unicode.Ranges.minus) rest
    | '~' :: '~' :: rest =>
      readClass flags n stack (frame.operate flags Unicode.Ranges.differ) rest
    | cs => do
      let (s, rest) ← readClassRange flags cs
      readClass flags n stack (frame.add ⟨s, 0⟩) rest

end LintChain.Regex

import LintChain.Text.Octets

/-!
Arithmetic of the shell on whole numbers of 64 bits: the operators with their usual binding
strengths, a comparison having the value 1 or 0, and assignments to variables.
-/

namespace LintChain.Shell.Arithmetic

open Text (Octets)

inductive Operation
  | or | xor | and | eq | ne | le | ge | lt | gt | left | right | add | sub | mul | div | mod
  deriving DecidableEq

inductive Expr
  | number (n : Int)
  | parameter (name : Octets)
  | negative (e : Expr)
  | complement (e : Expr)
  | not (e : Expr)
  | apply (op : Operation) (a b : Expr)
  | both (a b : Expr)
  | either (a b : Expr)
  | choice (test yes no : Expr)
  /-- Gives a parameter a value, which an operation may make of its old value and the expression. -/
  | assign (name : Octets) (op? : Option Operation) (e : Expr)

/-- Why an expression has no value. -/
inductive Failure
  | expecting (what : String)
  | divisionByZero
  /-- The value of a parameter. -/
  | noNumber (value : Octets)

/-- What is said of the expression that `text` spells. -/
def Failure.message (text : Octets) : Failure → Octets
  | expecting what =>
    ("arithmetic expression: expecting " ++ what ++ ": \"").toList ++ text ++ ['"']
  | divisionByZero => "arithmetic expression: division by zero: \"".toList ++ text ++ ['"']
  | noNumber value => "Illegal number: ".toList ++ value

/-! ### Numbers -/

def maximum : Int := 9223372036854775807

/-- The number of 64 bits with a sign that is left of a whole number. -/
def wrap (n : Int) : Int := n.bmod 18446744073709551616

def ofBool (b : Bool) : Int := if b then 1 else 0

def digitValue (c : Char) : Nat :=
  if c.isDigit then c.toNat - '0'.toNat
  else if 'a' ≤ c ∧ c ≤ 'f' then c.toNat - 'a'.toNat + 10
  else if 'A' ≤ c ∧ c ≤ 'F' then c.toNat - 'A'.toNat + 10
  else 16

/-- Reads a number without a sign to the base that its beginning tells. -/
def spanNumber (text : Octets) : Nat × Octets :=
  let read (base : Nat) (text : Octets) : Nat × Octets :=
    let digits := text.takeWhile fun c => digitValue c < base
    (digits.foldl (fun n c => n * base + digitValue c) 0, text.drop digits.length)
  match text with
  | '0' :: x :: c :: rest =>
    if (x = 'x' ∨ x = 'X') ∧ digitValue c < 16 then read 16 (c :: rest) else read 8 text
  | '0' :: rest => read 8 ('0' :: rest)
  | text => read 10 text

def isBlank (c : Char) : Bool := c = ' ' || ('\t' ≤ c && c ≤ '\r')

def skip (text : Octets) : Octets := text.dropWhile isBlank

/-- The number that the value of a parameter spells, nothing standing for 0. -/
def valueNumber? (value : Octets) : Option Int :=
  let (sign, digits) : Int × Octets := match skip value with
    | '-' :: rest => (-1, rest)
    | '+' :: rest => (1, rest)
    | rest => (1, rest)
  if value = [] then some 0
  else if digits.head?.any Char.isDigit then
    let (n, rest) := spanNumber digits
    if skip rest = [] then some (sign * min maximum n) else none
  else none

/-! ### Reading -/

namespace Operation

def strength : Operation → Nat
  | or => 1
  | xor => 2
  | and => 3
  | eq | ne => 4
  | le | ge | lt | gt => 5
  | left | right => 6
  | add | sub => 7
  | mul | div | mod => 8

/-- The operators by their marks, a longer mark before its own beginning. -/
def marks : List (String × Operation) := [
  ("<<", left), (">>", right), ("<=", le), (">=", ge), ("==", eq), ("!=", ne), ("<", lt),
  (">", gt), ("|", or), ("^", xor), ("&", and), ("+", add), ("-", sub), ("*", mul), ("/", div),
  ("%", mod)]

/-- Those that may stand before the sign of an assignment. -/
def assigning : List Operation := [or, xor, and, left, right, add, sub, mul, div, mod]

/-- The operator at the front of a text, unless it is part of a longer mark. -/
def read? (text : Octets) : Option (Operation × Octets) := do
  let (mark, op) ← marks.find? fun m => m.1.toList.isPrefixOf text
  let rest := text.drop mark.length
  let doubled := (op = or ∨ op = and) ∧ rest.head? = text.head?
  if doubled ∨ (op ∈ assigning ∧ rest.head? = some '=') then none else return (op, rest)

/-- The sign of an assignment at the front of a text, with the operation before it. -/
def readAssigning? (text : Octets) : Option (Option Operation × Octets) :=
  match text with
  | '=' :: rest => if rest.head? = some '=' then none else some (none, rest)
  | text => do
    let (mark, op) ← marks.find? fun m => m.1.toList.isPrefixOf text
    match text.drop mark.length with
    | '=' :: rest => if op ∈ assigning then return (some op, rest) else none
    | _ => none

end Operation

def isNameStart (c : Char) : Bool := c.isAlpha || c = '_'

abbrev Read := Except Failure (Expr × Octets)

mutual

def readPrimary (fuel : Nat) (text : Octets) : Read :=
  match fuel with
  | 0 => .error (.expecting "primary")
  | fuel + 1 =>
    match skip text with
    | '(' :: rest => do
      let (e, rest) ← readAssignment fuel rest
      match skip rest with
      | ')' :: rest => return (e, rest)
      | _ => throw (.expecting "')'")
    | '-' :: rest => (readPrimary fuel rest).map fun (e, rest) => (.negative e, rest)
    | '+' :: rest => readPrimary fuel rest
    | '~' :: rest => (readPrimary fuel rest).map fun (e, rest) => (.complement e, rest)
    | '!' :: rest => (readPrimary fuel rest).map fun (e, rest) => (.not e, rest)
    | c :: rest =>
      if c.isDigit then
        let (n, rest) := spanNumber (c :: rest)
        .ok (.number (min maximum n), rest)
      else if isNameStart c then
        let name := c :: rest.takeWhile fun c => isNameStart c || c.isDigit
        .ok (.parameter name, (c :: rest).drop name.length)
      else .error (.expecting "primary")
    | [] => .error (.expecting "primary")

/-- Reads operators at least as strong as `least`. -/
def readOperations (fuel : Nat) (least : Nat) (text : Octets) : Read :=
  match fuel with
  | 0 => .error (.expecting "primary")
  | fuel + 1 => do
    let (a, rest) ← readPrimary fuel text
    continued fuel least a rest

/-- Goes on from a first operand. -/
def continued (fuel : Nat) (least : Nat) (a : Expr) (text : Octets) : Read :=
  match fuel with
  | 0 => .error (.expecting "primary")
  | fuel + 1 =>
    match Operation.read? (skip text) with
    | none => .ok (a, text)
    | some (op, rest) =>
      if op.strength < least then .ok (a, text)
      else do
        let (b, rest) ← readOperations fuel (op.strength + 1) rest
        continued fuel least (.apply op a b) rest

def readBoth (fuel : Nat) (text : Octets) : Read :=
  match fuel with
  | 0 => .error (.expecting "primary")
  | fuel + 1 => do
    let (a, rest) ← readOperations fuel 1 text
    match skip rest with
    | '&' :: '&' :: rest => (readBoth fuel rest).map fun (b, rest) => (.both a b, rest)
    | _ => return (a, rest)

def readEither (fuel : Nat) (text : Octets) : Read :=
  match fuel with
  | 0 => .error (.expecting "primary")
  | fuel + 1 => do
    let (a, rest) ← readBoth fuel text
    match skip rest with
    | '|' :: '|' :: rest => (readEither fuel rest).map fun (b, rest) => (.either a b, rest)
    | _ => return (a, rest)

def readChoice (fuel : Nat) (text : Octets) : Read :=
  match fuel with
  | 0 => .error (.expecting "primary")
  | fuel + 1 => do
    let (test, rest) ← readEither fuel text
    match skip rest with
    | '?' :: rest =>
      let (yes, rest) ← readAssignment fuel rest
      match skip rest with
      | ':' :: rest =>
        let (no, rest) ← readChoice fuel rest
        return (.choice test yes no, rest)
      | _ => throw (.expecting "':'")
    | _ => return (test, rest)

def readAssignment (fuel : Nat) (text : Octets) : Read :=
  match fuel with
  | 0 => .error (.expecting "primary")
  | fuel + 1 =>
    let rest := skip text
    let name := rest.takeWhile fun c => isNameStart c || c.isDigit
    match if name.head?.any isNameStart then
        Operation.readAssigning? (skip (rest.drop name.length)) else none with
    | some (op?, rest) =>
      (readAssignment fuel rest).map fun (e, rest) => (.assign name op? e, rest)
    | none => readChoice fuel rest

end

/-- The expression that a text spells. -/
def read (text : Octets) : Except Failure Expr := do
  let (e, rest) ← readAssignment (8 * text.length + 8) text
  if skip rest = [] then return e else throw (.expecting "EOF")

/-! ### Values -/

/-- Division and remainder go toward zero, and there is none by zero. Of the number of places of a
shift only the last six bits count. -/
def Operation.apply (op : Operation) (a b : Int) : Except Failure Int :=
  let bits (f : BitVec 64 → BitVec 64 → BitVec 64) : Int :=
    (f (BitVec.ofInt 64 a) (BitVec.ofInt 64 b)).toInt
  let places := (b % 64).toNat
  match op with
  | or => .ok (bits (· ||| ·))
  | xor => .ok (bits (· ^^^ ·))
  | and => .ok (bits (· &&& ·))
  | eq => .ok (ofBool (a = b))
  | ne => .ok (ofBool (a ≠ b))
  | le => .ok (ofBool (a ≤ b))
  | ge => .ok (ofBool (a ≥ b))
  | lt => .ok (ofBool (a < b))
  | gt => .ok (ofBool (a > b))
  | left => .ok (wrap (a * (Nat.pow 2 places : Nat)))
  | right => .ok (a / (Nat.pow 2 places : Nat))
  | add => .ok (wrap (a + b))
  | sub => .ok (wrap (a - b))
  | mul => .ok (wrap (a * b))
  | div => if b = 0 then .error .divisionByZero else .ok (wrap (a.tdiv b))
  | mod => if b = 0 then .error .divisionByZero else .ok (a.tmod b)

/-- The values of variables: those assigned so far, and the others. -/
structure Variables where
  assigned : List (Octets × Int)
  value : Octets → Octets

namespace Variables

def number (vs : Variables) (name : Octets) : Except Failure Int :=
  match vs.assigned.find? (·.1 = name) with
  | some (_, n) => .ok n
  | none =>
    match valueNumber? (vs.value name) with
    | some n => .ok n
    | none => .error (.noNumber (vs.value name))

def assign (vs : Variables) (name : Octets) (n : Int) : Variables :=
  { vs with assigned := (name, n) :: vs.assigned.filter (·.1 ≠ name) }

end Variables

/-- The value of an expression, and the variables after it. An operand that does not matter for the
value is left alone. -/
def Expr.evaluate (vs : Variables) : Expr → Except Failure (Int × Variables)
  | .number n => .ok (n, vs)
  | .parameter name => (vs.number name).map fun n => (n, vs)
  | .negative e => (e.evaluate vs).map fun (n, vs) => (wrap (-n), vs)
  | .complement e => (e.evaluate vs).map fun (n, vs) => (-n - 1, vs)
  | .not e => (e.evaluate vs).map fun (n, vs) => (ofBool (n = 0), vs)
  | .apply op a b => do
    let (m, vs) ← a.evaluate vs
    let (n, vs) ← b.evaluate vs
    return (← op.apply m n, vs)
  | .both a b => do
    let (m, vs) ← a.evaluate vs
    if m = 0 then return (0, vs)
    let (n, vs) ← b.evaluate vs
    return (ofBool (n ≠ 0), vs)
  | .either a b => do
    let (m, vs) ← a.evaluate vs
    if m ≠ 0 then return (1, vs)
    let (n, vs) ← b.evaluate vs
    return (ofBool (n ≠ 0), vs)
  | .choice test yes no => do
    let (n, vs) ← test.evaluate vs
    if n ≠ 0 then yes.evaluate vs else no.evaluate vs
  | .assign name op? e => do
    let (n, vs) ← e.evaluate vs
    let n ← match op? with
      | none => .ok n
      | some op => do op.apply (← vs.number name) n
    return (n, vs.assign name n)

/-- The value of the expression that a text spells, with the variables that it assigns, oldest
first. -/
def evaluate (value : Octets → Octets) (text : Octets) :
    Except Failure (Int × List (Octets × Int)) := do
  let (n, vs) ← (← read text).evaluate ⟨[], value⟩
  return (n, vs.assigned.reverse)

end LintChain.Shell.Arithmetic

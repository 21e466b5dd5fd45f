import LintChain.Shell.Arithmetic
import LintChain.Shell.State

/-!
Tests on files, texts and numbers, joined by `!`, `-a`, `-o` and parentheses. What a word means
depends on the words around it.
-/

namespace LintChain.Shell.Test

open Text (Octets)

/-- Why a test has no value. -/
inductive TestError
  | unexpected (operand : Octets)
  | noArgument (op : Octets)
  | noClose
  | noNumber (text : Octets)

def TestError.message : TestError → Octets
  | unexpected operand => operand ++ ": unexpected operator".toList
  | noArgument op => op ++ ": argument expected".toList
  | noClose => "closing paren expected".toList
  | noNumber text => "Illegal number: ".toList ++ text

/-- What a word is among others. -/
inductive Role
  | operand
  | unary
  | binary
  | not
  | and
  | or
  | opening
  | closing
  | ending
  deriving DecidableEq

def unaryOperators : List String :=
  ["-r", "-w", "-x", "-e", "-f", "-d", "-c", "-b", "-p", "-u", "-g", "-k", "-s", "-t", "-z", "-n",
    "-h", "-O", "-G", "-L", "-S"]

def binaryOperators : List String :=
  ["=", "!=", "<", ">", "-eq", "-ne", "-gt", "-ge", "-lt", "-le", "-nt", "-ot", "-ef"]

def isBinary (word : Octets) : Bool := binaryOperators.contains (String.ofList word)

/-- The role of the first of some words. -/
def role (words : List Octets) : Role :=
  match words with
  | [] => .ending
  | word :: rest =>
    let name := String.ofList word
    if unaryOperators.contains name then
      match rest with
      | [] => .operand
      | next :: _ :: _ => if isBinary next then .operand else .unary
      | _ => .unary
    else if isBinary word then .binary
    else if name = "!" then .not
    else if name = "-a" then .and
    else if name = "-o" then .or
    else if name = "(" then (if rest.isEmpty then .operand else .opening)
    else if name = ")" then .closing
    else .operand

def unary (s : State) (op operand : Octets) : Bool :=
  let path := s.path operand
  let node? := match s.tree.lookUp path with
    | .ok (_, node) => some node
    | .error _ => none
  let mode := (node?.bind FileTree.mode?).getD 0
  match String.ofList op with
  | "-n" => operand ≠ []
  | "-z" => operand = []
  | "-e" | "-O" | "-G" => node?.isSome
  | "-f" => s.tree.kind? path = some .file
  | "-d" => s.tree.kind? path = some .directory
  | "-c" => s.tree.kind? path = some .other
  | "-r" => FileTree.allows mode 4
  | "-w" => FileTree.allows mode 2
  | "-x" => FileTree.allows mode 1
  | "-u" => mode / 2048 % 2 = 1
  | "-g" => mode / 1024 % 2 = 1
  | "-k" => mode / 512 % 2 = 1
  | "-s" =>
    match node? with
    | some (.file bytes _) => bytes.size ≠ 0
    | some (.directory ..) => true
    | _ => false
  | "-L" | "-h" =>
    match s.tree.locate false path with
    | .ok ⟨_, some (.link _)⟩ => true
    | _ => false
  | _ => false

def number (text : Octets) : Except TestError Int :=
  match Octets.toInt? (text.filter (!Arithmetic.isBlank ·)) with
  | some n => .ok n
  | none => .error (.noNumber text)

/-- Compares two operands. Files are all of one age. -/
def binary (s : State) (op a b : Octets) : Except TestError Bool :=
  let numbers (f : Int → Int → Bool) : Except TestError Bool := do
    return f (← number a) (← number b)
  let names? (operand : Octets) : Option (List String) :=
    match s.tree.lookUp (s.path operand) with
    | .ok (names, _) => some names
    | .error _ => none
  match String.ofList op with
  | "=" => .ok (a = b)
  | "!=" => .ok (a ≠ b)
  | "<" => .ok (decide (a < b))
  | ">" => .ok (decide (b < a))
  | "-eq" => numbers (· = ·)
  | "-ne" => numbers (· ≠ ·)
  | "-lt" => numbers (· < ·)
  | "-le" => numbers (· ≤ ·)
  | "-gt" => numbers (· > ·)
  | "-ge" => numbers (· ≥ ·)
  | "-nt" | "-ot" => .ok false
  | _ => .ok ((names? a).isSome && names? a = names? b)

/-- A value, the last word that it took, and the words after that. -/
abbrev Read := Except TestError (Bool × Octets × List Octets)

mutual

def readEither (s : State) (fuel : Nat) (words : List Octets) : Read :=
  match fuel with
  | 0 => .error .noClose
  | fuel + 1 => do
    let (a, last, rest) ← readBoth s fuel words
    if role rest = .or then
      let (b, last, rest) ← readEither s fuel rest.tail
      return (a || b, last, rest)
    else return (a, last, rest)

def readBoth (s : State) (fuel : Nat) (words : List Octets) : Read :=
  match fuel with
  | 0 => .error .noClose
  | fuel + 1 => do
    let (a, last, rest) ← readNegated s fuel words
    if role rest = .and then
      let (b, last, rest) ← readBoth s fuel rest.tail
      return (a && b, last, rest)
    else return (a, last, rest)

def readNegated (s : State) (fuel : Nat) (words : List Octets) : Read :=
  match fuel with
  | 0 => .error .noClose
  | fuel + 1 =>
    if role words = .not then
      (readNegated s fuel words.tail).map fun (a, last, rest) => (!a, last, rest)
    else readPrimary s fuel words

def readPrimary (s : State) (fuel : Nat) (words : List Octets) : Read :=
  match fuel with
  | 0 => .error .noClose
  | fuel + 1 =>
    match words with
    | [] => .ok (false, [], [])
    | word :: rest =>
      match role words, rest with
      | .opening, _ =>
        if role rest = .closing then .ok (false, [')'], rest.tail)
        else do
          let (a, _, rest) ← readEither s fuel rest
          if role rest = .closing then return (a, [')'], rest.tail) else throw .noClose
      | .unary, operand :: rest => .ok (unary s word operand, operand, rest)
      | .unary, [] => .error (.noArgument word)
      | _, op :: after =>
        if isBinary op then
          match after with
          | [] => .error (.noArgument op)
          | b :: rest => (binary s op word b).map fun a => (a, b, rest)
        else .ok (word ≠ [], word, rest)
      | _, [] => .ok (word ≠ [], word, [])

end

/-- The value of words that say nothing by their number. -/
def evaluateAll (s : State) (words : List Octets) : Except TestError Bool := do
  let (a, last, rest) ← readEither s (6 * words.length + 6) words
  if rest.isEmpty then return a else throw (.unexpected last)

/-- The value of a test. Of three or four words the parentheses around them or the negation in front
come first. -/
def evaluate (s : State) (words : List Octets) : Except TestError Bool :=
  match words with
  | [] => .ok false
  | [a, op, b] =>
    if isBinary op then binary s op a b
    else if a = ['('] ∧ b = [')'] then evaluateAll s [op]
    else if a = ['!'] then (evaluateAll s [op, b]).map (!·)
    else evaluateAll s words
  | [a, b, c, d] =>
    if a = ['('] ∧ d = [')'] then evaluateAll s [b, c]
    else if a = ['!'] then
      if isBinary c then (binary s c b d).map (!·)
      else if b = ['('] ∧ d = [')'] then (evaluateAll s [c]).map (!·)
      else if b = ['!'] then (evaluateAll s [c, d]).map (!·)
      else (evaluateAll s [b, c, d]).map (!·)
    else evaluateAll s words
  | words => evaluateAll s words

end LintChain.Shell.Test

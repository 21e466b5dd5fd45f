import LintChain.Shell.Utility.Filter

/-!
An editor that takes a text line by line and does to each line what a short script says. A script
is a list of instructions, each with the lines that it is for.
-/

namespace LintChain.Shell.Utility.Edit

open Regex (Pattern Atom)
open Text (Octets)

inductive Address
  | line (n : Nat)
  | last
  | hit (pattern : Pattern Atom)

inductive Action
  | delete
  | print
  | quit
  /-- Puts a line before, after or in the place of this one. -/
  | insert (line : Octets)
  | append (line : Octets)
  | change (line : Octets)
  /-- Replaces one match, or all from that one on; `none` in the new text stands for the match. -/
  | substitute (pattern : Pattern Atom) (text : List (Option Char)) (first : Nat)
      (all printing : Bool)

structure Instruction where
  first? : Option Address
  last? : Option Address
  negated : Bool
  action : Action

def pattern? (extended ignoringCase : Bool) (text : Octets) : Option (Pattern Atom) :=
  let body := if extended then text else extendPattern text
  let source := (if ignoringCase then "(?i)".toList else []) ++ body
  (Regex.parse (String.ofList source)).toOption.map Regex.Expr.pattern

/-- The text up to a mark that no backslash stands before, and what follows the mark. -/
def spanMarked (mark : Char) : Octets → Option (Octets × Octets)
  | [] => none
  | '\\' :: c :: rest =>
    (spanMarked mark rest).map fun (text, after) =>
      (if c = mark then c :: text else '\\' :: c :: text, after)
  | c :: rest =>
    if c = mark then some ([], rest)
    else (spanMarked mark rest).map fun (text, after) => (c :: text, after)

def readReplacement : Octets → List (Option Char)
  | [] => []
  | '\\' :: 'n' :: rest => some '\n' :: readReplacement rest
  | '\\' :: c :: rest => some c :: readReplacement rest
  | '&' :: rest => none :: readReplacement rest
  | c :: rest => some c :: readReplacement rest

def isGap (c : Char) : Bool := c = ' ' || c = '\t'

def readAddress? (extended : Bool) (text : Octets) : Option (Option Address × Octets) :=
  match text with
  | '$' :: rest => some (some .last, rest)
  | '/' :: rest => do
    let (body, after) ← spanMarked '/' rest
    return (some (.hit (← pattern? extended false body)), after)
  | _ =>
    let digits := text.takeWhile Char.isDigit
    some ((Octets.toNat? digits).map .line, text.drop digits.length)

/-- A substitution behind its letter. -/
def readSubstitution? (extended : Bool) (text : Octets) : Option (Action × Octets) :=
  match text with
  | [] => none
  | mark :: rest => do
    let (body, rest) ← spanMarked mark rest
    let (new, rest) ← spanMarked mark rest
    let flags := rest.takeWhile fun c => c.isAlphanum
    let number := flags.filter Char.isDigit
    let pattern ← pattern? extended (flags.contains 'i' || flags.contains 'I') body
    let first := (Octets.toNat? number).getD 1
    return (.substitute pattern (readReplacement new) first (flags.contains 'g')
      (flags.contains 'p'), rest.drop flags.length)

/-- The line that an instruction gives, and what follows it. -/
def readLine (text : Octets) : Octets × Octets :=
  let text := text.dropWhile isGap
  let text := if text.head? = some '\\' then (text.drop 1).dropWhile (· = '\n') else text
  let line := text.takeWhile (· ≠ '\n')
  (line, text.drop line.length)

def readAction? (extended : Bool) (text : Octets) : Option (Action × Octets) :=
  match text with
  | 'd' :: rest => some (.delete, rest)
  | 'p' :: rest => some (.print, rest)
  | 'q' :: rest => some (.quit, rest)
  | 'i' :: rest => some (.insert (readLine rest).1, (readLine rest).2)
  | 'a' :: rest => some (.append (readLine rest).1, (readLine rest).2)
  | 'c' :: rest => some (.change (readLine rest).1, (readLine rest).2)
  | 's' :: rest => readSubstitution? extended rest
  | _ => none

/-- The instructions of a script, unless it is malformed. -/
def read? (extended : Bool) (fuel : Nat) (text : Octets) : Option (List Instruction) :=
  match fuel with
  | 0 => none
  | fuel + 1 =>
    match text.dropWhile fun c => isGap c || c = ';' || c = '\n' with
    | [] => some []
    | text => do
      let (first?, rest) ← readAddress? extended text
      let (last?, rest) ← match rest with
        | ',' :: rest => readAddress? extended rest
        | _ => some (none, rest)
      let rest := rest.dropWhile isGap
      let negated := rest.head? = some '!'
      let (action, rest) ← readAction? extended (if negated then rest.tail else rest)
      return ⟨first?, last?, negated, action⟩ :: (← read? extended fuel rest)

/-- A line of a text. -/
structure Line where
  number : Nat
  isLast : Bool
  text : Octets

def Address.isReached (a : Address) (l : Line) : Bool :=
  match a with
  | line n => n ≤ l.number
  | last => l.isLast
  | hit pattern => pattern.isMatch l.text

def Address.isAt (a : Address) (l : Line) : Bool :=
  match a with
  | line n => l.number = n
  | _ => a.isReached l

/-- Whether an address, as the end of some lines, is behind a line. -/
def Address.isPassed (a : Address) (l : Line) : Bool :=
  match a with
  | line n => n < l.number
  | _ => false

def Instruction.isFor (i : Instruction) (l : Line) : Bool :=
  (match i.first?, i.last? with
    | none, _ => true
    | some a, none => a.isAt l
    | some a, some b => a.isReached l && (!b.isPassed l || a.isAt l)) != i.negated

/-- Replaces matches, and says whether there were any. -/
def substitute (pattern : Pattern Atom) (new : List (Option Char)) (first : Nat) (all : Bool)
    (text : Octets) : Octets × Bool :=
  let spans := (pattern.spans text).drop (first - 1)
  let spans := if all then spans else spans.take 1
  let (done, after) := spans.foldl (fun (done, after) (start, stop) =>
    let found := (text.take stop).drop start
    let filled := new.flatMap fun c? => c?.elim found fun c => [c]
    (done ++ (text.take start).drop after ++ filled, stop)) (([] : Octets), 0)
  (done ++ text.drop after, !spans.isEmpty)

/-- What an instruction list leaves of a line. -/
structure Round where
  before : List Octets
  /-- The line, unless it is deleted. -/
  text? : Option Octets
  after : List Octets
  quits : Bool

def Round.step (l : Line) (r : Round) (i : Instruction) : Round :=
  match r.text? with
  | none => r
  | some text =>
    if r.quits || !i.isFor { l with text } then r
    else
      match i.action with
      | .delete => { r with text? := none }
      | .print => { r with before := r.before ++ [text] }
      | .quit => { r with quits := true }
      | .insert line => { r with before := r.before ++ [line] }
      | .append line => { r with after := r.after ++ [line] }
      | .change line => { r with before := r.before ++ [line], text? := none }
      | .substitute pattern new first all printing =>
        let (text, found) := substitute pattern new first all text
        { r with before := if found && printing then r.before ++ [text] else r.before
                 text? := some text }

/-- The lines that the instructions make of others, which are printed only on request if `quiet`
is set. -/
def edit (quiet : Bool) (script : List Instruction) (number : Nat) : List Octets → List Octets
  | [] => []
  | text :: rest =>
    let l : Line := ⟨number, rest.isEmpty, text⟩
    let r := script.foldl (Round.step l) ⟨[], some text, [], false⟩
    let kept := if quiet then [] else r.text?.toList
    r.before ++ kept ++ r.after ++ if r.quits then [] else edit quiet script (number + 1) rest

def editText (quiet : Bool) (script : List Instruction) (text : Octets) : Octets :=
  let edited := unlines (edit quiet script 1 (linesOf text))
  if text.getLast? = some '\n' then edited else edited.dropLast

/-- The scripts that options give, and the other arguments. -/
def splitScripts : List Octets → List Octets × List Octets
  | ['-', 'e'] :: script :: rest =>
    let (scripts, others) := splitScripts rest
    (script :: scripts, others)
  | arg :: rest =>
    let (scripts, others) := splitScripts rest
    (scripts, arg :: others)
  | [] => ([], [])

/-- Edits the input or files, in place if that is asked for. -/
def sed (job : Job) : Effect :=
  let (scripts, others) := splitScripts job.args
  let (options, operands) := spanOptions others
  let extended := hasFlag options 'E' || hasFlag options 'r'
  let quiet := hasFlag options 'n'
  let (scripts, operands) :=
    if scripts.isEmpty then (operands.take 1, operands.drop 1) else (scripts, operands)
  let source := Text.unfields '\n' scripts
  match read? extended (source.length + 1) source with
  | none => job.begin.fail 1 "sed: unknown command".toList
  | some script =>
    let mention : Octets → Octets := ("sed: can't read ".toList ++ ·)
    let e :=
      if hasFlag options 'i' then
        operands.foldl (fun e operand =>
          match e.tree.read (job.path operand) with
          | .ok bytes =>
            let text := editText quiet script (Octets.ofBytes bytes)
            e.attempt "sed" "cannot write " operand
              (e.tree.write false (job.path operand) text.toBytes)
          | .error reason => e.fail 2 (mention operand ++ ": ".toList ++ reason.text.toList))
          job.begin
      else
        let (texts, e) := gather job mention operands
        e.write (editText quiet script (texts.flatMap (·.2)))
    if e.status = 0 then e else { e with status := 2 }

end LintChain.Shell.Utility.Edit

import LintChain.Regex.Parser
import LintChain.Shell.Utility.Basic

/-!
The utilities that read texts and write what they select, count or make of them.
-/

namespace LintChain.Shell.Utility

open Text (Octets)

def cat (job : Job) : Effect :=
  let (texts, e) := gather job (mention "cat") (spanOptions job.args).2
  e.write (texts.flatMap (·.2))

/-- The number that an option asks for, given as `-n 5`, `-n5` or `-5`, and the other arguments. -/
def readCount (args : List Octets) : Option (Char × Octets) × List Octets :=
  match args with
  | ['-', c] :: n :: rest => if c.isDigit then (some ('n', [c]), n :: rest) else (some (c, n), rest)
  | ('-' :: c :: n) :: rest => if c.isDigit then (some ('n', c :: n), rest) else (some (c, n), rest)
  | _ => (none, args)

/-- What a complaint about an operand that is to be opened starts with. -/
def mentionOpening (utility : String) (operand : Octets) : Octets :=
  utility.toList ++ ": cannot open ".toList ++ Effect.quotedOperand operand ++
    " for reading".toList

/-- The first lines or octets of each operand. -/
def head (job : Job) : Effect :=
  let (count?, operands) := readCount job.args
  let (unit, n) := (count?.map fun (c, text) => (c, (Octets.toNat? text).getD 0)).getD ('n', 10)
  let endless (operand : Octets) : Bool :=
    match job.tree.lookUp (job.path operand) with
    | .ok (_, .device true) => true
    | _ => false
  if unit = 'c' ∧ operands.any endless then job.begin.write (List.replicate n '\x00')
  else
    let (texts, e) := gather job (mentionOpening "head") operands
    texts.foldl (fun e (_, text) =>
      e.write (if unit = 'c' then text.take n
        else
          let pieces := Text.fields '\n' text
          if pieces.length ≤ n then text else unlines (pieces.take n))) e

/-- The last lines or octets of each operand. -/
def tail (job : Job) : Effect :=
  let (count?, operands) := readCount job.args
  let (unit, count) := count?.getD ('n', "10".toList)
  let fromStart := count.head? = some '+'
  let n := (Octets.toNat? (if fromStart then count.tail else count)).getD 0
  let (texts, e) := gather job (mentionOpening "tail") operands
  texts.foldl (fun e (_, text) =>
    e.write (
      if unit = 'c' then text.drop (if fromStart then n - 1 else text.length - n)
      else
        let lines := linesOf text
        let kept := lines.drop (if fromStart then n - 1 else lines.length - n)
        if text.getLast? = some '\n' then unlines kept else Text.unfields '\n' kept)) e

/-- Counts lines, words and octets. -/
def wc (job : Job) : Effect :=
  let (options, operands) := spanOptions job.args
  let (texts, e) := gather job (mention "wc") operands
  let all := options.isEmpty
  let words (text : Octets) : Nat :=
    (text.foldl (fun (n, inWord) c =>
      if c.isWhitespace then (n, false) else (if inWord then n else n + 1, true)) (0, false)).1
  let counts (text : Octets) : List Nat :=
    (if all || hasFlag options 'l' then [text.count '\n'] else []) ++
      (if all || hasFlag options 'w' then [words text] else []) ++
      (if all || hasFlag options 'c' || hasFlag options 'm' then [text.length] else [])
  let whole := texts.flatMap (·.2)
  let width :=
    if (counts []).length = 1 && operands.length ≤ 1 then 1
    else if operands.isEmpty then 7
    else (Octets.ofNat whole.length).length
  let column (n : Nat) : Octets :=
    let digits := Octets.ofNat n
    List.replicate (width - digits.length) ' ' ++ digits
  let line (text name : Octets) : Octets :=
    Text.unfields ' ' ((counts text).map column ++ if name.isEmpty then [] else [name])
  let e := texts.foldl (fun e (operand, text) =>
    e.writeLine (line text (if operands.isEmpty then [] else operand))) e
  if operands.length ≤ 1 then e else e.writeLine (line whole "total".toList)

/-- The value of an option with one letter, given with it or behind it, and the other arguments. -/
def takeValue (letter : Char) : List Octets → Option Octets × List Octets
  | [] => (none, [])
  | ['-', c] :: value :: rest =>
    if c = letter then (some value, rest)
    else
      let (found?, others) := takeValue letter (value :: rest)
      (found?, ['-', c] :: others)
  | arg :: rest =>
    if arg.take 2 = ['-', letter] then (some (arg.drop 2), rest)
    else
      let (found?, others) := takeValue letter rest
      (found?, arg :: others)

/-- Whether a place is on a list of numbers and ranges. -/
def isListed (list : Octets) (place : Nat) : Bool :=
  (Text.fields ',' list).any fun range =>
    match Text.fields '-' range with
    | [n] => Octets.toNat? n = some place
    | [low, high] =>
      ((Octets.toNat? low).getD 1) ≤ place && (Octets.toNat? high).all (place ≤ ·)
    | _ => false

/-- The chosen ones of a list, places being counted from 1. -/
def choose {α : Type} (list : Octets) (items : List α) : List α :=
  (items.zipIdx.filter fun (_, i) => isListed list (i + 1)).map (·.1)

/-- Selects fields or octets of each line. -/
def cut (job : Job) : Effect :=
  let (mark?, args) := takeValue 'd' job.args
  let (fields?, args) := takeValue 'f' args
  let (octets?, args) := takeValue 'c' args
  let mark := (mark?.bind List.head?).getD '\t'
  let (texts, e) := gather job (mention "cut") (spanOptions args).2
  let select (line : Octets) : Octets :=
    match fields?, octets? with
    | some list, _ =>
      if line.contains mark then Text.unfields mark (choose list (Text.fields mark line)) else line
    | none, some list => choose list line
    | none, none => line
  e.write (unlines ((texts.flatMap fun (_, text) => linesOf text).map select))

/-- The octets of a set: ranges, escapes, and some names between colons. -/
def readSet (fuel : Nat) (text : Octets) : Octets :=
  match fuel with
  | 0 => []
  | fuel + 1 =>
    let range (low high : Char) : Octets :=
      (List.range (high.toNat + 1 - low.toNat)).map fun i => Char.ofNat (low.toNat + i)
    let isOctal (c : Char) : Bool := '0' ≤ c && c ≤ '7'
    match text with
    | [] => []
    | '[' :: ':' :: rest =>
      let name := rest.takeWhile (· ≠ ':')
      let after := rest.drop (name.length + 2)
      (match String.ofList name with
        | "upper" => range 'A' 'Z'
        | "lower" => range 'a' 'z'
        | "digit" => range '0' '9'
        | "alpha" => range 'A' 'Z' ++ range 'a' 'z'
        | "alnum" => range '0' '9' ++ range 'A' 'Z' ++ range 'a' 'z'
        | "space" => range '\t' '\r' ++ [' ']
        | _ => []) ++ readSet fuel after
    | '\\' :: c :: rest =>
      if isOctal c then
        let digits := ((c :: rest).take 3).takeWhile isOctal
        let value := digits.foldl (fun n d => n * 8 + (d.toNat - '0'.toNat)) 0
        Char.ofNat (value % 256) :: readSet fuel ((c :: rest).drop digits.length)
      else
        let e := match c with
          | 'n' => '\n'
          | 't' => '\t'
          | 'r' => '\r'
          | _ => c
        e :: readSet fuel rest
    | a :: '-' :: b :: rest => range a b ++ readSet fuel rest
    | c :: rest => c :: readSet fuel rest

/-- Replaces or deletes octets of the input. -/
def tr (job : Job) : Effect :=
  let (options, sets) := spanOptions job.args
  let set (i : Nat) : Octets :=
    let text := (sets[i]?).getD []
    readSet (text.length + 1) text
  let e := { job.begin with input := [] }
  let first := set 0
  let inFirst (c : Char) : Bool :=
    if hasFlag options 'c' || hasFlag options 'C' then !first.contains c else first.contains c
  if hasFlag options 'd' then e.write (job.input.filter fun c => !inFirst c)
  else
    let second := set 1
    let replace (c : Char) : Char :=
      if inFirst c then
        match second.getLast? with
        | none => c
        | some last => (first.idxOf? c).elim last fun i => (second[i]?).getD last
      else c
    let squeezed (text : Octets) : Octets :=
      let squeeze := if second.isEmpty then first else second
      (text.foldl (fun (kept : Octets) c =>
        if kept.head? = some c && squeeze.contains c then kept else c :: kept) []).reverse
    let replaced := job.input.map replace
    e.write (if hasFlag options 's' then squeezed replaced else replaced)

/-- A basic pattern as an extended one: marks mean themselves unless they are escaped. -/
def extendPattern : Octets → Octets
  | [] => []
  | '\\' :: c :: rest =>
    if "(){}|+?".toList.contains c then c :: extendPattern rest
    else '\\' :: c :: extendPattern rest
  | c :: rest =>
    if "(){}|+?".toList.contains c then '\\' :: c :: extendPattern rest else c :: extendPattern rest

def escapeAll (text : Octets) : Octets :=
  text.flatMap fun c => if c.isAlphanum || c = ' ' || 127 < c.toNat then [c] else ['\\', c]

/-- Selects the lines that match a pattern. -/
def grep (job : Job) : Effect :=
  let (options, rest) := spanOptions job.args
  match rest with
  | [] => job.begin.fail 2 "Usage: grep [OPTION]... PATTERNS [FILE]...".toList
  | pattern :: operands =>
    let body :=
      if hasFlag options 'F' then escapeAll pattern
      else if hasFlag options 'E' then pattern
      else extendPattern pattern
    let whole := if hasFlag options 'x' then "^(?:".toList ++ body ++ ")$".toList else body
    let source := (if hasFlag options 'i' then "(?i)".toList else []) ++ whole
    match Regex.compile (String.ofList source) with
    | .error _ => job.begin.fail 2 "grep: Invalid regular expression".toList
    | .ok regex =>
      let (texts, e) := gather job (mention "grep") operands
      let hits (text : Octets) : List (Nat × Octets) :=
        ((linesOf text).zipIdx.map fun (line, i) => (i + 1, line)).filter fun (_, line) =>
          regex.isMatch (String.ofList line) != hasFlag options 'v'
      let named := operands.length > 1
      let found := texts.any fun (_, text) => !(hits text).isEmpty
      let report (e : Effect) (operand text : Octets) : Effect :=
        let front : Octets := if named then operand ++ [':'] else []
        if hasFlag options 'q' then e
        else if hasFlag options 'l' then if (hits text).isEmpty then e else e.writeLine operand
        else if hasFlag options 'c' then e.writeLine (front ++ Octets.ofNat (hits text).length)
        else
          (hits text).foldl (fun e (n, line) =>
            let number : Octets := if hasFlag options 'n' then Octets.ofNat n ++ [':'] else []
            e.writeLine (front ++ number ++ line)) e
      let e := texts.foldl (fun e (operand, text) => report e operand text) e
      let failed := e.status ≠ 0
      { e with status := if found && (hasFlag options 'q' || !failed) then 0
                         else if failed then 2 else 1 }

def sortLines (job : Job) : Effect :=
  let (options, operands) := spanOptions job.args
  let (texts, e) := gather job (mention "sort: cannot read") operands
  let lines := texts.flatMap fun (_, text) => linesOf text
  let number (line : Octets) : Int :=
    (Octets.toInt? (line.takeWhile fun c => c.isDigit || c = '-')).getD 0
  let le (a b : Octets) : Bool :=
    if hasFlag options 'n' then
      if number a = number b then Octets.isOrdered a b else decide (number a < number b)
    else Octets.isOrdered a b
  let sorted := lines.mergeSort le
  let sorted := if hasFlag options 'r' then sorted.reverse else sorted
  let sorted := if hasFlag options 'u' then sorted.eraseDups else sorted
  e.write (unlines sorted)

/-- Drops lines that equal the line before them. -/
def uniq (job : Job) : Effect :=
  let (texts, e) := gather job (mention "uniq") (spanOptions job.args).2
  let lines := texts.flatMap fun (_, text) => linesOf text
  let kept := lines.foldl (fun (kept : List Octets) line =>
    if kept.head? = some line then kept else line :: kept) []
  e.write (unlines kept.reverse)

/-- Copies the input to the output and into files. -/
def tee (job : Job) : Effect :=
  let (options, operands) := spanOptions job.args
  let e := { job.begin with input := [], output := job.input }
  operands.foldl (fun e operand =>
    e.attempt "tee" "" operand
      (e.tree.write (hasFlag options 'a') (job.path operand) job.input.toBytes)) e

end LintChain.Shell.Utility

import LintChain.Regex.Pattern
import LintChain.Unicode.Named

/-!
The smallest parts of a regular expression: characters that stand for themselves, and escapes. What
an escape means depends on the flags in force.
-/

namespace LintChain.Regex

/-- Why a text is no regular expression. -/
inductive Error
  | unclosedGroup
  | unopenedGroup
  | unclosedClass
  | badClassRange
  | badClassItem
  | nothingToRepeat
  | badRepetition
  | badEscape
  | backreference
  | lookAround
  | badFlags
  | badGroupName
  | unknownSet
  | notUtf8
  | tooDeep
  | tooLarge
  deriving DecidableEq, Repr

def Error.message : Error → String
  | unclosedGroup => "unclosed group"
  | unopenedGroup => "unopened group"
  | unclosedClass => "unclosed character class"
  | badClassRange => "invalid character class range"
  | badClassItem => "invalid item in a character class"
  | nothingToRepeat => "repetition operator missing expression"
  | badRepetition => "invalid repetition count"
  | badEscape => "unrecognized escape sequence"
  | backreference => "backreferences are not supported"
  | lookAround => "look-around is not supported"
  | badFlags => "invalid flags"
  | badGroupName => "invalid capture group name"
  | unknownSet => "Unicode property not found"
  | notUtf8 => "pattern can match invalid UTF-8"
  | tooDeep => "pattern is nested too deeply"
  | tooLarge => "compiled pattern is too large"

/-- The report on a pattern, which is shown with a mark below it. The lines of one that has several
are numbered and stand between two rules. -/
def Error.report (pattern : String) (e : Error) : String :=
  let lines := Text.lines pattern
  let error := "error: " ++ e.message
  if e = tooLarge then e.message
  else if pattern.contains '\n' then
    let rule := String.ofList (List.replicate 79 '~')
    let numbered := lines.zipIdx.map fun (line, i) => toString (i + 1) ++ ": " ++ line
    let span := "on line 1 through line " ++ toString lines.length
    "\n".intercalate (["regex parse error:", rule] ++ numbered ++ [rule, span, error])
  else
    let mark := String.ofList (List.replicate pattern.length '^')
    "\n".intercalate ["regex parse error:", "    " ++ pattern, "    " ++ mark, error]

structure Flags where
  ignoreCase : Bool
  multiLine : Bool
  dotMatchesNewline : Bool
  allScripts : Bool
  crlf : Bool
  ignoreBlanks : Bool
  /-- Repetitions take as little as they can, unless a question mark follows them. -/
  swapGreed : Bool

def Flags.initial : Flags := ⟨false, false, false, true, false, false, false⟩

/-- Drops blanks and comments where they are ignored. -/
def skipBlanks (inComment : Bool) : List Char → List Char
  | [] => []
  | c :: rest =>
    if inComment then skipBlanks (c ≠ '\n') rest
    else if Unicode.isWhiteSpace c then skipBlanks false rest
    else if c = '#' then skipBlanks true rest
    else c :: rest

def Flags.skip (flags : Flags) (cs : List Char) : List Char :=
  if flags.ignoreBlanks then skipBlanks false cs else cs

/-- What a single character or an escape stands for. -/
inductive Symbol
  | literal (c : Char)
  /-- A literal given by the two hexadecimal digits of a byte. -/
  | byte (c : Char)
  | set (s : CharSet)
  | anchor (a : Anchor)

def isMeta (c : Char) : Bool :=
  ['\\', '.', '+', '*', '?', '(', ')', '|', '[', ']', '\x7b', '\x7d', '^', '$', '#', '&', '-',
    '~'].contains c

/-- The characters that may be escaped though they need not be. -/
def isEscapable (c : Char) : Bool :=
  isMeta c || (c.toNat < 128 && !c.isAlphanum && c != '<' && c != '>')

def charOfCode? (n : Nat) : Option Char :=
  if n < 0xD800 ∨ (0xDFFF < n ∧ n < 0x110000) then some (Char.ofNat n) else none

/-- Exactly `n` hexadecimal digits. -/
def takeHex (flags : Flags) : Nat → Nat → List Char → Except Error (Nat × List Char)
  | 0, value, cs => .ok (value, cs)
  | n + 1, value, cs =>
    match cs with
    | c :: rest =>
      match Unicode.Ranges.hexDigit? c with
      | some d => takeHex flags n (value * 16 + d) (flags.skip rest)
      | none => .error .badEscape
    | [] => .error .badEscape

/-- Hexadecimal digits up to a closing brace. -/
def takeHexBraced (flags : Flags) (some? : Bool) (value : Nat) :
    Nat → List Char → Except Error (Nat × List Char)
  | 0, _ => .error .badEscape
  | n + 1, cs =>
    match flags.skip cs with
    | '\x7d' :: rest => if some? then .ok (value, flags.skip rest) else .error .badEscape
    | c :: rest =>
      match Unicode.Ranges.hexDigit? c with
      | some d => takeHexBraced flags true (min (value * 16 + d) 0x110000) n rest
      | none => .error .badEscape
    | [] => .error .badEscape

def readHex (flags : Flags) (digits : Nat) (cs : List Char) :
    Except Error (Symbol × List Char) := do
  match flags.skip cs with
  | '\x7b' :: rest =>
    let (n, rest) ← takeHexBraced flags false 0 (rest.length + 1) rest
    match charOfCode? n with
    | some c => .ok (.literal c, rest)
    | none => .error .badEscape
  | cs =>
    let (n, rest) ← takeHex flags digits 0 cs
    match charOfCode? n with
    | some c => .ok (if digits = 2 then .byte c else .literal c, rest)
    | none => .error .badEscape

/-- Characters up to a closing brace, blanks left out where they are ignored. -/
def takeBraced (flags : Flags) : Nat → List Char → Option (List Char × List Char)
  | 0, _ => none
  | n + 1, cs =>
    match flags.skip cs with
    | '\x7d' :: rest => some ([], rest)
    | c :: rest => (takeBraced flags n rest).map fun (name, after) => (c :: name, after)
    | [] => none

/-- The text before and after the first occurrence of `sep`. -/
def splitFirst (sep : Char) (cs : List Char) : Option (List Char × List Char) :=
  match cs.dropWhile (· ≠ sep) with
  | [] => none
  | _ :: rest => some (cs.takeWhile (· ≠ sep), rest)

/-- The text before and after the first inequality sign. -/
def splitUnequal : List Char → Option (List Char × List Char)
  | '!' :: '=' :: rest => some ([], rest)
  | c :: rest => (splitUnequal rest).map fun (name, value) => (c :: name, value)
  | [] => none

/-- A set by the text between braces, and whether it is to be complemented. -/
def setOfText (text : List Char) : Option (CharSet × Bool) :=
  let valued (negated : Bool) (parts : List Char × List Char) : Option (CharSet × Bool) :=
    (Unicode.valued? (String.ofList parts.1) (String.ofList parts.2)).map (·, negated)
  match splitUnequal text, splitFirst ':' text, splitFirst '=' text with
  | some parts, _, _ => valued true parts
  | none, some parts, _ => valued false parts
  | none, none, some parts => valued false parts
  | none, none, none => (Unicode.named? (String.ofList text)).map (·, false)

/-- The set up to case, if case is ignored. -/
def Flags.fold (flags : Flags) (s : CharSet) : CharSet :=
  if flags.ignoreCase then s.folded flags.allScripts else s

def readNamedSet (flags : Flags) (negated : Bool) (cs : List Char) :
    Except Error (Symbol × List Char) := do
  let (text, rest) ← match flags.skip cs with
    | '\x7b' :: rest =>
      match takeBraced flags (rest.length + 1) rest with
      | some found => pure found
      | none => throw .badEscape
    | '\\' :: _ => throw .badEscape
    | c :: rest => pure ([c], flags.skip rest)
    | [] => throw .badEscape
  if !flags.allScripts then throw .unknownSet
  match setOfText text with
  | none => throw .unknownSet
  | some (set, inverted) =>
    let set := flags.fold set
    return (.set (if negated != inverted then set.complement else set), rest)

def namedSymbol (flags : Flags) (negated : Bool) (set : CharSet) : Except Error Symbol :=
  if negated then (if flags.allScripts then .ok (.set set.complement) else .error .notUtf8)
  else .ok (.set set)

/-- A word boundary may say in braces which one it is. -/
def readBoundary (flags : Flags) (cs : List Char) : Except Error (Symbol × List Char) := do
  let plain := (Symbol.anchor (.wordBoundary flags.allScripts), cs)
  let isName (c : Char) : Bool := c.isAlpha || c == '-'
  match cs with
  | '\x7b' :: rest =>
    match flags.skip rest with
    | [] => throw .badRepetition
    | c :: _ =>
      if !isName c then return plain
      match takeBraced flags (rest.length + 1) rest with
      | none => throw .badEscape
      | some (name, rest) =>
        match String.ofList name with
        | "start" => return (.anchor (.wordStart flags.allScripts), rest)
        | "end" => return (.anchor (.wordEnd flags.allScripts), rest)
        | "start-half" => return (.anchor (.wordStartHalf flags.allScripts), rest)
        | "end-half" => return (.anchor (.wordEndHalf flags.allScripts), rest)
        | _ => throw .badEscape
  | _ => return plain

/-- An escape, without its backslash. -/
def readEscape (flags : Flags) (cs : List Char) : Except Error (Symbol × List Char) := do
  let u := flags.allScripts
  let named (negated : Bool) (set : CharSet) (rest : List Char) :
      Except Error (Symbol × List Char) := do
    return (← namedSymbol flags negated set, rest)
  match cs with
  | [] => throw .badEscape
  | c :: rest =>
    if c.isDigit then throw .backreference
    match c with
    | 'x' => readHex flags 2 rest
    | 'u' => readHex flags 4 rest
    | 'U' => readHex flags 8 rest
    | 'p' => readNamedSet flags false rest
    | 'P' => readNamedSet flags true rest
    | 'd' => named false (.digits u) rest
    | 'D' => named true (.digits u) rest
    | 's' => named false (.blanks u) rest
    | 'S' => named true (.blanks u) rest
    | 'w' => named false (.words u) rest
    | 'W' => named true (.words u) rest
    | 'a' => return (.literal '\x07', rest)
    | 'f' => return (.literal '\x0c', rest)
    | 't' => return (.literal '\t', rest)
    | 'n' => return (.literal '\n', rest)
    | 'r' => return (.literal '\r', rest)
    | 'v' => return (.literal '\x0b', rest)
    | 'A' => return (.anchor .textStart, rest)
    | 'z' => return (.anchor .textEnd, rest)
    | 'b' => readBoundary flags rest
    | 'B' => return (.anchor (.notWordBoundary u), rest)
    | '<' => return (.anchor (.wordStart u), rest)
    | '>' => return (.anchor (.wordEnd u), rest)
    | c => if isEscapable c then return (.literal c, rest) else throw .badEscape

end LintChain.Regex

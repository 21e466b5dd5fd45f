import LintChain.Shell.Script
import LintChain.Text.Split

/-!
Reading shell scripts. A script is read as a whole before it runs.
-/

namespace LintChain.Shell.Reader

open Text (Octets)

/-- What is left to read, with the number of its first line. The lines of documents are taken out of
the text; those that stood below the line being read count when it ends. -/
structure Source where
  rest : Octets
  line : Nat
  hidden : Nat

/-- Why a script cannot be read. -/
inductive ReadError
  | unexpected (line : Nat) (found : String) (expected? : Option String)
  | unterminated (line : Nat)
  | malformed (line : Nat) (what : String)

namespace ReadError

def line : ReadError → Nat
  | unexpected line _ _ => line
  | unterminated line => line
  | malformed line _ => line

def message : ReadError → String
  | unexpected _ found none => "Syntax error: " ++ found ++ " unexpected"
  | unexpected _ found (some word) =>
    "Syntax error: " ++ found ++ " unexpected (expecting \"" ++ word ++ "\")"
  | unterminated _ => "Syntax error: Unterminated quoted string"
  | malformed _ what => what

end ReadError

namespace Source

def ofText (text : Octets) (line : Nat) : Source := ⟨text, line, 0⟩

def advance (s : Source) (rest : Octets) : Source :=
  match (s.rest.take (s.rest.length - rest.length)).count '\n' with
  | 0 => ⟨rest, s.line, s.hidden⟩
  | ends => ⟨rest, s.line + s.hidden + ends, 0⟩

def drop (s : Source) (n : Nat) : Source := s.advance (s.rest.drop n)

def unterminated {α : Type} (s : Source) : Except ReadError α := .error (.unterminated s.line)

def malformed {α : Type} (s : Source) (what : String) : Except ReadError α :=
  .error (.malformed s.line what)

end Source

def isBlank (c : Char) : Bool := c = ' ' || c = '\t'

/-- Whether a character ends a word that is not quoted. -/
def endsWord (c : Char) : Bool := isBlank c || "\n;&|<>()".toList.contains c

def isNameStart (c : Char) : Bool := c.isAlpha || c = '_'

def isNameChar (c : Char) : Bool := c.isAlphanum || c = '_'

def isName (text : Octets) : Bool := text.head?.any isNameStart && text.all isNameChar

/-- The parameters with names of one character that is no letter. -/
def isSpecial (c : Char) : Bool := c.isDigit || "@*#?-$!".toList.contains c

/-- Drops blanks, continued lines and a comment. -/
def skipBlanks (rest : Octets) : Octets :=
  match rest with
  | '\\' :: '\n' :: rest => skipBlanks rest
  | '#' :: rest => rest.dropWhile (· ≠ '\n')
  | c :: rest => if isBlank c then skipBlanks rest else c :: rest
  | [] => []

/-- Drops blanks, comments and line ends. -/
def skipLines (rest : Octets) : Octets :=
  match _h : skipBlanks rest with
  | '\n' :: after => if after.length < rest.length then skipLines after else '\n' :: after
  | other => other
termination_by rest.length

def Source.blanks (s : Source) : Source := s.advance (skipBlanks s.rest)

def Source.lines (s : Source) : Source := s.advance (skipLines s.rest)

/-- Puts a character at the front of a word, into its first text if that is quoted alike. -/
def pushChar (quoted : Bool) (c : Char) : List Part → List Part
  | .text q cs :: parts =>
    if q = quoted ∧ cs ≠ [] then .text q (c :: cs) :: parts
    else .text quoted [c] :: .text q cs :: parts
  | parts => .text quoted [c] :: parts

/-- Puts characters at the front of a word. -/
def pushText (quoted : Bool) (cs : Octets) (parts : List Part) : List Part :=
  match cs, parts with
  | [], _ => .text quoted [] :: parts
  | _, .text q ds :: rest =>
    if q = quoted then .text q (cs ++ ds) :: rest else .text quoted cs :: parts
  | _, _ => .text quoted cs :: parts

/-- Where a word stands, which decides where it ends. -/
inductive Context
  | word
  | quotes
  | braces (quoted : Bool)
  | sum (depth : Nat)
  /-- The text of a document, up to its end. -/
  | document
  deriving DecidableEq

namespace Context

def quoted : Context → Bool
  | word => false
  | quotes => true
  | braces q => q
  | sum _ => true
  | document => true

/-- Whether quotes are quotes here, and not text. -/
def hasQuotes : Context → Bool
  | word => true
  | braces q => !q
  | _ => false

/-- Whether a backslash takes the meaning from a character. -/
def escapes (context : Context) (c : Char) : Bool :=
  match context with
  | word => true
  | braces false => true
  | document => "$`\\".toList.contains c
  | _ => "$`\"\\\x7d".toList.contains c && (c ≠ '}' || context = braces true)

end Context

/-- The script between back quotes and what follows it. -/
def spanBackQuotes (inQuotes : Bool) : Octets → Option (Octets × Octets)
  | [] => none
  | '\x60' :: rest => some ([], rest)
  | '\\' :: c :: rest =>
    (spanBackQuotes inQuotes rest).map fun (script, after) =>
      if "$`\\".toList.contains c || (inQuotes && c = '"') then (c :: script, after)
      else ('\\' :: c :: script, after)
  | c :: rest => (spanBackQuotes inQuotes rest).map fun (script, after) => (c :: script, after)

/-- The reserved words that end a list of commands. -/
def closers : List String := ["then", "do", "done", "fi", "elif", "else", "esac", "\x7d"]

/-- The unquoted word at the front, if it is made of letters or is one mark. -/
def plainWord (rest : Octets) : String :=
  let word := rest.takeWhile fun c => !endsWord c
  if word.all fun c => c.isAlpha || "\x7b\x7d!".toList.contains c then String.ofList word else ""

/-- The words that mean something where a command could start. -/
def reserved : List String := closers ++ ["if", "while", "until", "for", "case", "in", "!", "\x7b"]

/-- What stands at the front, as messages name it. -/
def Source.front (s : Source) : String :=
  let rest := s.blanks.rest
  let quoted (mark : String) : String := "\"" ++ mark ++ "\""
  match rest with
  | [] => "end of file"
  | '\n' :: _ => "newline"
  | c :: _ =>
    let pair := String.ofList (rest.take 2)
    let word := plainWord rest
    if ["&&", "||", ";;"].contains pair then quoted pair
    else if ";&|()".toList.contains c then quoted (String.singleton c)
    else if "<>".toList.contains c then "redirection"
    else if reserved.contains word then quoted word
    else "word"

def Source.unexpected {α : Type} (s : Source) : Except ReadError α :=
  .error (.unexpected s.blanks.line s.front none)

/-- Complains that a word is missing. -/
def Source.lacks {α : Type} (s : Source) (word : String) : Except ReadError α :=
  .error (.unexpected s.blanks.line s.front (some word))

/-- Takes a reserved word. -/
def Source.expect (s : Source) (word : String) : Except ReadError Source :=
  if plainWord s.rest = word then .ok (s.drop word.length) else s.lacks word

/-- Takes a closing parenthesis. -/
def Source.expectClose (s : Source) : Except ReadError Source :=
  if s.rest.head? = some ')' then .ok (s.drop 1) else s.lacks ")"

/-- Whether a list of commands ends here. -/
def Source.atCloser (s : Source) : Bool :=
  s.rest.isEmpty || s.rest.head? = some ')' || s.rest.take 2 = [';', ';'] ||
    closers.contains (plainWord s.rest)

/-- The word at a here-document's mark without quotes, and whether it had any. -/
def documentMark (quoted : Bool) : Octets → Octets × Bool × Octets
  | [] => ([], quoted, [])
  | '\\' :: c :: rest =>
    let (mark, _, after) := documentMark true rest
    (c :: mark, true, after)
  | c :: rest =>
    if c = '\'' || c = '"' then
      let (mark, _, after) := documentMark true rest
      (mark, true, after)
    else if endsWord c then ([], quoted, c :: rest)
    else
      let (mark, quoted, after) := documentMark quoted rest
      (c :: mark, quoted, after)

/-- The lines up to the mark, and those after it if it is there. -/
def takeDocument (dropTabs : Bool) (mark : Octets) :
    List Octets → List Octets × Option (List Octets)
  | [] => ([], none)
  | line :: rest =>
    let line := if dropTabs then line.dropWhile (· = '\t') else line
    if line = mark then ([], some rest)
    else
      let (body, after?) := takeDocument dropTabs mark rest
      (line :: body, after?)

/-- The text of a document, and what is left to read without it. -/
def spanDocument (dropTabs : Bool) (mark : Octets) (s : Source) : Octets × Source :=
  let line := s.rest.takeWhile (· ≠ '\n')
  let lines := Text.fields '\n' (s.rest.drop (line.length + 1))
  match takeDocument dropTabs mark lines with
  | (body, some after) =>
    let rest := line ++ '\n' :: Text.unfields '\n' after
    (body.flatMap (· ++ ['\n']), ⟨rest, s.line, s.hidden + body.length + 1⟩)
  | (body, none) => (Text.unfields '\n' body, ⟨line, s.line, s.hidden + body.length⟩)

/-- A word that is all text and reads as a number. -/
def descriptor? : List Part → Option Nat
  | [.text _ cs] => Octets.toNat? cs
  | _ => none

/-- A word of the form `name=value`. -/
def assignment? : List Part → Option (Octets × List Part)
  | .text false cs :: rest =>
    let name := cs.takeWhile (· ≠ '=')
    if isName name ∧ name.length < cs.length then
      let value := cs.drop (name.length + 1)
      some (name, if value = [] then rest else .text false value :: rest)
    else none
  | _ => none

mutual

/-- The parts of a word up to its end, which is taken unless it is the end of a bare word. -/
def readParts (fuel : Nat) (context : Context) (s : Source) :
    Except ReadError (List Part × Source) :=
  match fuel with
  | 0 => s.unterminated
  | fuel + 1 =>
    let literal (c : Char) (rest : Octets) : Except ReadError (List Part × Source) := do
      let (parts, s) ← readParts fuel context (s.advance rest)
      return (pushChar context.quoted c parts, s)
    match s.rest with
    | [] =>
      match context with
      | .word | .document => .ok ([], s)
      | .quotes => s.unterminated
      | .braces _ => s.malformed "Syntax error: Missing '\x7d'"
      | .sum _ => s.malformed "Syntax error: Missing '))'"
    | '\\' :: '\n' :: rest => readParts fuel context (s.advance rest)
    | '\\' :: c :: rest =>
      if context.escapes c then do
        let (parts, s) ← readParts fuel context (s.advance rest)
        return (pushChar true c parts, s)
      else literal '\\' (c :: rest)
    | '\'' :: rest =>
      if context.hasQuotes then
        let text := rest.takeWhile (· ≠ '\'')
        if text.length = rest.length then s.unterminated
        else do
          let (parts, s) ← readParts fuel context (s.advance (rest.drop (text.length + 1)))
          return (pushText true text parts, s)
      else literal '\'' rest
    | '"' :: rest =>
      if context = .quotes then .ok ([], s.advance rest)
      else if context.hasQuotes then do
        let (inner, s) ← readParts fuel .quotes (s.advance rest)
        let (parts, s) ← readParts fuel context s
        return ((if inner.isEmpty then [.text true []] else inner) ++ parts, s)
      else literal '"' rest
    | '$' :: rest => do
      let (part, s) ← readDollar fuel context.quoted (s.advance rest)
      let (parts, s) ← readParts fuel context s
      return (part :: parts, s)
    | '\x60' :: rest =>
      match spanBackQuotes (context = .quotes) rest with
      | none => s.unterminated
      | some (script, after) => do
        let (body, _) ← readSequence fuel false (.ofText script s.line)
        let (parts, s) ← readParts fuel context (s.advance after)
        return (.output context.quoted body :: parts, s)
    | c :: rest =>
      match context with
      | .word => if endsWord c then .ok ([], s) else literal c rest
      | .braces _ => if c = '}' then .ok ([], s.advance rest) else literal c rest
      | .sum 0 =>
        if c = ')' ∧ rest.head? = some ')' then .ok ([], s.advance rest.tail)
        else if c = '(' then do
          let (parts, s) ← readParts fuel (.sum 1) (s.advance rest)
          return (pushChar true c parts, s)
        else literal c rest
      | .sum (depth + 1) =>
        if c = '(' ∨ c = ')' then do
          let inner := if c = '(' then depth + 2 else depth
          let (parts, s) ← readParts fuel (.sum inner) (s.advance rest)
          return (pushChar true c parts, s)
        else literal c rest
      | _ => literal c rest

/-- What a dollar sign stands for. -/
def readDollar (fuel : Nat) (quoted : Bool) (s : Source) : Except ReadError (Part × Source) :=
  match fuel with
  | 0 => s.unterminated
  | fuel + 1 =>
    match s.rest with
    | '(' :: '(' :: rest => do
      let (expression, s) ← readParts fuel (.sum 0) (s.advance rest)
      return (.number quoted expression, s)
    | '(' :: rest => do
      let (body, s) ← readSequence fuel false (s.advance rest)
      let s ← s.expectClose
      return (.output quoted body, s)
    | '{' :: '#' :: c :: rest =>
      if c = '}' then .ok (.parameter quoted ['#'] .value, s.advance rest)
      else
        let name := if isNameStart c then c :: rest.takeWhile isNameChar else [c]
        match (c :: rest).drop name.length with
        | '}' :: after => .ok (.parameter quoted name .length, s.advance after)
        | _ => s.malformed "Bad substitution"
    | '{' :: c :: rest =>
      let name :=
        if isNameStart c then c :: rest.takeWhile isNameChar
        else if c.isDigit then c :: rest.takeWhile Char.isDigit
        else [c]
      if isNameStart c ∨ isSpecial c then do
        let (form, s) ← readForm fuel quoted (s.advance ((c :: rest).drop name.length))
        return (.parameter quoted name form, s)
      else s.malformed "Bad substitution"
    | c :: rest =>
      if isNameStart c then
        let name := c :: rest.takeWhile isNameChar
        .ok (.parameter quoted name .value, s.advance ((c :: rest).drop name.length))
      else if isSpecial c then .ok (.parameter quoted [c] .value, s.advance rest)
      else .ok (.text quoted ['$'], s)
    | [] => .ok (.text quoted ['$'], s)

/-- What follows a parameter's name in braces. -/
def readForm (fuel : Nat) (quoted : Bool) (s : Source) : Except ReadError (Form × Source) :=
  match fuel with
  | 0 => s.unterminated
  | fuel + 1 =>
    let word (pattern : Bool) (form : List Part → Form) (n : Nat) :
        Except ReadError (Form × Source) := do
      let (parts, s) ← readParts fuel (.braces (quoted && !pattern)) (s.drop n)
      return (form parts, s)
    match s.rest with
    | '}' :: rest => .ok (.value, s.advance rest)
    | ':' :: '-' :: _ => word false (.orElse true) 2
    | '-' :: _ => word false (.orElse false) 1
    | ':' :: '=' :: _ => word false (.assign true) 2
    | '=' :: _ => word false (.assign false) 1
    | ':' :: '+' :: _ => word false (.instead true) 2
    | '+' :: _ => word false (.instead false) 1
    | ':' :: '?' :: _ => word false (.require true) 2
    | '?' :: _ => word false (.require false) 1
    | '%' :: '%' :: _ => word true (.trimEnd true) 2
    | '%' :: _ => word true (.trimEnd false) 1
    | '#' :: '#' :: _ => word true (.trimStart true) 2
    | '#' :: _ => word true (.trimStart false) 1
    | [] => s.malformed "Syntax error: Missing '\x7d'"
    | _ => s.malformed "Bad substitution"

/-- A redirection behind its optional descriptor. -/
def readRedirection (fuel : Nat) (descriptor? : Option Nat) (s : Source) :
    Except ReadError (Redirection × Source) :=
  match fuel with
  | 0 => s.unterminated
  | fuel + 1 =>
    let path (n : Nat) (make : List Part → Redirection) :
        Except ReadError (Redirection × Source) := do
      let (parts, s) ← readParts fuel .word (s.drop n).blanks
      if parts.isEmpty then s.unexpected else return (make parts, s)
    let document (dropTabs : Bool) (n : Nat) : Except ReadError (Redirection × Source) := do
      let s := (s.drop n).blanks
      let (mark, quoted, after) := documentMark false s.rest
      let first := s.line + s.hidden + 1
      let (text, s) := spanDocument dropTabs mark (s.advance after)
      if quoted then return (.document [.text true text], s)
      else
        let (parts, _) ← readParts fuel .document (.ofText text first)
        return (.document parts, s)
    let copy (default n : Nat) : Except ReadError (Redirection × Source) := do
      let (parts, s) ← readParts fuel .word (s.drop n).blanks
      let descriptor := descriptor?.getD default
      match parts, Reader.descriptor? parts with
      | _, some source => return (.copy descriptor source, s)
      | [.text _ ['-']], _ => return (.close descriptor, s)
      | _, _ => s.malformed "Syntax error: Bad fd number"
    match s.rest with
    | '<' :: '<' :: '-' :: _ => document true 3
    | '<' :: '<' :: _ => document false 2
    | '<' :: '&' :: _ => copy 0 2
    | '<' :: _ => path 1 .input
    | '>' :: '>' :: _ => path 2 (.output (descriptor?.getD 1) true)
    | '>' :: '&' :: _ => copy 1 2
    | '>' :: '|' :: _ => path 2 (.output (descriptor?.getD 1) false)
    | '>' :: _ => path 1 (.output (descriptor?.getD 1) false)
    | _ => s.unexpected

/-- The redirections behind a compound command. -/
def readRedirections (fuel : Nat) (s : Source) : Except ReadError (List Redirection × Source) :=
  match fuel with
  | 0 => s.unterminated
  | fuel + 1 =>
    let s := s.blanks
    let digits := s.rest.takeWhile Char.isDigit
    let after := s.drop digits.length
    if after.rest.head? = some '<' ∨ after.rest.head? = some '>' then do
      let (r, s) ← readRedirection fuel (Octets.toNat? digits) after
      let (rs, s) ← readRedirections fuel s
      return (r :: rs, s)
    else .ok ([], s)

/-- The assignments, words and redirections of a simple command. -/
def readSimple (fuel : Nat) (assigning : Bool) (s : Source) :
    Except ReadError ((List (Octets × List Part) × List (List Part) × List Redirection) × Source) :=
  match fuel with
  | 0 => s.unterminated
  | fuel + 1 =>
    let s := s.blanks
    let digits := s.rest.takeWhile Char.isDigit
    let after := s.drop digits.length
    if after.rest.head? = some '<' ∨ after.rest.head? = some '>' then do
      let (r, s) ← readRedirection fuel (Octets.toNat? digits) after
      let ((assignments, words, rs), s) ← readSimple fuel assigning s
      return ((assignments, words, r :: rs), s)
    else if s.rest.isEmpty ∨ s.rest.head?.any endsWord then .ok (([], [], []), s)
    else do
      let (word, s) ← readParts fuel .word s
      match if assigning then assignment? word else none with
      | some a =>
        let ((assignments, words, rs), s) ← readSimple fuel true s
        return ((a :: assignments, words, rs), s)
      | none =>
        let ((assignments, words, rs), s) ← readSimple fuel false s
        return ((assignments, word :: words, rs), s)

/-- The part of a conditional behind its first word. -/
def readConditional (fuel : Nat) (s : Source) : Except ReadError (Command × Source) :=
  match fuel with
  | 0 => s.unterminated
  | fuel + 1 => do
    let (test, s) ← readSequence fuel false s
    let s ← s.expect "then"
    let (yes, s) ← readSequence fuel false s
    match plainWord s.rest with
    | "elif" =>
      let (no, s) ← readConditional fuel (s.drop 4)
      return (.conditional test yes no, s)
    | "else" =>
      let (no, s) ← readSequence fuel false (s.drop 4)
      let s ← s.expect "fi"
      return (.conditional test yes no, s)
    | _ =>
      let s ← s.expect "fi"
      return (.conditional test yes .nothing, s)

/-- The patterns of an arm. -/
def readPatterns (fuel : Nat) (s : Source) : Except ReadError (List (List Part) × Source) :=
  match fuel with
  | 0 => s.unterminated
  | fuel + 1 => do
    let (pattern, s) ← readParts fuel .word s.blanks
    let s := s.blanks
    match s.rest with
    | '|' :: _ =>
      let (patterns, s) ← readPatterns fuel (s.drop 1)
      return (pattern :: patterns, s)
    | _ =>
      let s ← s.expectClose
      return ([pattern], s)

def readArms (fuel : Nat) (s : Source) :
    Except ReadError (List (List (List Part) × Command) × Source) :=
  match fuel with
  | 0 => s.unterminated
  | fuel + 1 =>
    let s := s.lines
    if plainWord s.rest = "esac" then .ok ([], s.drop 4)
    else do
      let s := if s.rest.head? = some '(' then s.drop 1 else s
      let (patterns, s) ← readPatterns fuel s
      let (body, s) ← readSequence fuel false s
      if s.rest.take 2 = [';', ';'] then
        let (arms, s) ← readArms fuel (s.drop 2)
        return ((patterns, body) :: arms, s)
      else
        if plainWord s.rest = "esac" then return ([(patterns, body)], s.drop 4) else s.lacks ";;"

/-- The words that a name runs through, if they are given. -/
def readEachWords (fuel : Nat) (s : Source) :
    Except ReadError (Option (List (List Part)) × Source) :=
  match fuel with
  | 0 => s.unterminated
  | fuel + 1 =>
    let after := s.lines
    if plainWord after.rest = "in" then do
      let ((_, words, _), s) ← readSimple fuel false (after.drop 2)
      return (some words, s)
    else .ok (none, s)

/-- The body of a loop between its words. -/
def readBody (fuel : Nat) (s : Source) : Except ReadError (Command × Source) :=
  match fuel with
  | 0 => s.unterminated
  | fuel + 1 => do
    let s := s.blanks
    let s := if s.rest.head? = some ';' then s.drop 1 else s
    let s ← s.lines.expect "do"
    let (body, s) ← readSequence fuel false s
    let s ← s.expect "done"
    return (body, s)

/-- A command that is neither simple nor joined to others, without its redirections. -/
def readCompound (fuel : Nat) (word : String) (s : Source) : Except ReadError (Command × Source) :=
  match fuel with
  | 0 => s.unterminated
  | fuel + 1 => do
    let start := s.line
    match word with
    | "\x7b" =>
      let (body, s) ← readSequence fuel false (s.drop 1)
      let s ← s.expect "\x7d"
      return (body, s)
    | "if" => readConditional fuel (s.drop 2)
    | "while" =>
      let (test, s) ← readSequence fuel false (s.drop 5)
      let (body, s) ← readBody fuel s
      return (.loop false test body, s)
    | "until" =>
      let (test, s) ← readSequence fuel false (s.drop 5)
      let (body, s) ← readBody fuel s
      return (.loop true test body, s)
    | "for" =>
      let s := (s.drop 3).blanks
      let name := s.rest.takeWhile isNameChar
      if isName name then
        let (words?, s) ← readEachWords fuel (s.drop name.length)
        let (body, s) ← readBody fuel s
        return (.each start name words? body, s)
      else s.malformed "Syntax error: Bad for loop variable"
    | "case" =>
      let (subject, s) ← readParts fuel .word (s.drop 4).blanks
      let s ← s.lines.expect "in"
      let (arms, s) ← readArms fuel s
      return (.choice start subject arms, s)
    | _ => s.unexpected

def readCommand (fuel : Nat) (s : Source) : Except ReadError (Command × Source) :=
  match fuel with
  | 0 => s.unterminated
  | fuel + 1 => do
    let s := s.blanks
    let word := plainWord s.rest
    let name := s.rest.takeWhile isNameChar
    let start := s.line
    if s.rest.head? = some '(' then
      let (body, s) ← readSequence fuel false (s.drop 1)
      let s ← s.expectClose
      let (rs, s) ← readRedirections fuel s
      return (if rs.isEmpty then .subshell body else .redirected start (.subshell body) rs, s)
    else if ["\x7b", "if", "while", "until", "for", "case"].contains word then
      let (body, s) ← readCompound fuel word s
      let (rs, s) ← readRedirections fuel s
      return (if rs.isEmpty then body else .redirected start body rs, s)
    else if isName name ∧ (s.drop name.length).blanks.rest.take 1 = ['('] then
      let s ← ((s.drop name.length).blanks.drop 1).blanks.expectClose
      let (body, s) ← readCommand fuel s.lines
      return (.define name body, s)
    else
      let ((assignments, words, rs), after) ← readSimple fuel true s
      if assignments.isEmpty ∧ words.isEmpty ∧ rs.isEmpty then s.unexpected
      else if assignments.isEmpty ∧ words.length = 1 ∧ rs.isEmpty ∧ after.rest.head? = some '(' then
        let after ← (after.drop 1).blanks.expectClose
        after.malformed "Syntax error: Bad function name"
      else return (.simple s.line assignments words rs, after)

def readPipe (fuel : Nat) (s : Source) : Except ReadError (Command × Source) :=
  match fuel with
  | 0 => s.unterminated
  | fuel + 1 => do
    let (first, s) ← readCommand fuel s
    let s := s.blanks
    if s.rest.head? = some '|' ∧ s.rest.take 2 ≠ ['|', '|'] then
      let (second, s) ← readPipe fuel (s.drop 1).lines
      return (.pipe first second, s)
    else return (first, s)

def readPipeline (fuel : Nat) (s : Source) : Except ReadError (Command × Source) :=
  match fuel with
  | 0 => s.unterminated
  | fuel + 1 => do
    let s := s.blanks
    if plainWord s.rest = "!" then
      let (body, s) ← readPipe fuel (s.drop 1)
      return (.negated body, s)
    else readPipe fuel s

/-- What follows a command with `&&` and `||`, which bind to the left. -/
def readJoined (fuel : Nat) (first : Command) (s : Source) : Except ReadError (Command × Source) :=
  match fuel with
  | 0 => s.unterminated
  | fuel + 1 => do
    let s := s.blanks
    if s.rest.take 2 = ['&', '&'] then
      let (second, s) ← readPipeline fuel (s.drop 2).lines
      readJoined fuel (.both first second) s
    else if s.rest.take 2 = ['|', '|'] then
      let (second, s) ← readPipeline fuel (s.drop 2).lines
      readJoined fuel (.either first second) s
    else return (first, s)

/-- Commands up to a word or mark that ends them, or up to the end of a line. -/
def readSequence (fuel : Nat) (oneLine : Bool) (s : Source) : Except ReadError (Command × Source) :=
  match fuel with
  | 0 => s.unterminated
  | fuel + 1 => do
    let s := if oneLine then s.blanks else s.lines
    if s.atCloser ∨ s.rest.head? = some '\n' then return (.nothing, s)
    else
      let (first, s) ← readPipeline fuel s
      let (first, s) ← readJoined fuel first s
      let s := s.blanks
      match s.rest with
      | ';' :: rest =>
        if rest.head? = some ';' then return (first, s)
        else
          let (second, s) ← readSequence fuel oneLine (s.advance rest)
          return (.sequence first second, s)
      | '&' :: rest =>
        let (second, s) ← readSequence fuel oneLine (s.advance rest)
        return (.sequence first second, s)
      | '\n' :: _ =>
        if oneLine then return (first, s)
        else
          let (second, s) ← readSequence fuel false s
          return (.sequence first second, s)
      | _ => return (first, s)

end

/-- The next line of commands, if there is one. -/
def readNext (s : Source) : Except ReadError (Option (Command × Source)) := do
  let s := s.lines
  if s.rest.isEmpty then return none
  else
    let (command, s) ← readSequence (16 * s.rest.length + 64) true s
    if s.rest.isEmpty ∨ s.rest.head? = some '\n' then return some (command, s) else s.unexpected

end LintChain.Shell.Reader

import LintChain.Toml.Quoted
import LintChain.Toml.Scalar
import LintChain.Toml.Tree

/-!
Reading a document: its lines are headers and assignments, and a value may span lines between
brackets. Whoever reads a document of a wrong form gets nothing of it.
-/

namespace LintChain.Toml

def isBlank (c : Char) : Bool := c == ' ' || c == '\t'

def skipBlank (cs : List Char) : List Char := cs.dropWhile isBlank

/-- The text from the line break that ends a comment, which starts with its hash sign. -/
def skipComment (cs : List Char) : Option (List Char) :=
  match cs with
  | '#' :: rest =>
    let body := rest.takeWhile (· ≠ '\n')
    let text := if body.getLast? = some '\r' then body.dropLast else body
    if text.any isForbidden then none else some (rest.drop text.length)
  | cs => some cs

/-- What follows the end of a line: blanks, a comment, then a line break or the end of the text. -/
def lineEnd (cs : List Char) : Option (List Char) := do
  let rest ← skipComment (skipBlank cs)
  if rest.isEmpty then return []
  else newline? rest

/-- Skips blanks, line breaks and comments. -/
def skipLines : Nat → List Char → Option (List Char)
  | 0, cs => some cs
  | n + 1, cs => do
    let rest ← skipComment (skipBlank cs)
    match newline? rest with
    | some rest => skipLines n rest
    | none => return rest

def skipAll (cs : List Char) : Option (List Char) := skipLines (cs.length + 1) cs

def isBare (c : Char) : Bool := c.isAlphanum || c == '-' || c == '_'

def simpleKey (cs : List Char) : Option (String × List Char) :=
  match cs with
  | '"' :: '"' :: '"' :: _ => none
  | '\'' :: '\'' :: '\'' :: _ => none
  | '"' :: _ => shortString? cs
  | '\'' :: _ => shortString? cs
  | cs =>
    let word := cs.takeWhile isBare
    if word.isEmpty then none else some (String.ofList word, cs.drop word.length)

/-- How deep arrays and inline tables may nest, and how many parts a key may have. -/
def maxDepth : Nat := 80

/-- At most `n` keys parted by dots: all but the last one, the last one, and the text after it. -/
def dottedKeys : Nat → List Char → Option (List String × String × List Char)
  | 0, _ => none
  | n + 1, cs => do
    let (key, rest) ← simpleKey cs
    match skipBlank rest with
    | '.' :: rest =>
      let (path, last, rest) ← dottedKeys n (skipBlank rest)
      return (key :: path, last, rest)
    | _ => return ([], key, rest)

def dottedKey (cs : List Char) : Option (List String × String × List Char) :=
  dottedKeys maxDepth cs

/-- Every character belongs to a word but those that set one off. -/
def isWordChar (c : Char) : Bool :=
  !"=,[]\x7b\x7d# \t\r\n".toList.contains c

def expect (c : Char) : List Char → Option (List Char)
  | d :: rest => if c = d then some rest else none
  | [] => none

/-- A value that is one word; a date and a time may be parted by one blank. -/
def word (cs : List Char) : Option (Value × List Char) :=
  let first := cs.takeWhile isWordChar
  let rest := cs.drop first.length
  let joined : Option (Value × List Char) :=
    match rest with
    | ' ' :: more =>
      let second := more.takeWhile isWordChar
      if Datetime.isDate first then
        (datetime? (first ++ ' ' :: second)).map (·, more.drop second.length)
      else none
    | _ => none
  joined.orElse fun _ => (scalar? first).map (·, rest)

mutual

def value (depth : Nat) : Nat → List Char → Option (Value × List Char)
  | 0, _ => none
  | n + 1, cs =>
    match cs with
    | '[' :: rest => if depth < maxDepth then items (depth + 1) [] n rest else none
    | '\x7b' :: rest => if depth < maxDepth then entries (depth + 1) [] n rest else none
    | '"' :: _ => (string? cs).map fun (s, rest) => (.string s, rest)
    | '\'' :: _ => (string? cs).map fun (s, rest) => (.string s, rest)
    | cs => word cs

/-- The rest of an array, after its bracket or a comma; the items before stand last first. -/
def items (depth : Nat) (before : List Value) : Nat → List Char → Option (Value × List Char)
  | 0, _ => none
  | n + 1, cs => do
    match ← skipAll cs with
    | ']' :: rest => return (.array before.reverse, rest)
    | cs =>
      let (v, rest) ← value depth n cs
      match ← skipAll rest with
      | ',' :: rest => items depth (v :: before) n rest
      | ']' :: rest => return (.array (v :: before).reverse, rest)
      | _ => none

/-- The rest of an inline table, after its brace or a comma. -/
def entries (depth : Nat) (before : Node.Entries) : Nat → List Char → Option (Value × List Char)
  | 0, _ => none
  | n + 1, cs => do
    match ← skipAll cs with
    | '\x7d' :: rest => return ((Node.table .named before).toValue, rest)
    | cs =>
      let (path, key, rest) ← dottedKey cs
      let rest ← expect '=' (← skipAll rest)
      let (v, rest) ← value depth n (← skipAll rest)
      let after ← Node.assign path key v .named before
      match ← skipAll rest with
      | ',' :: rest => entries depth after n rest
      | '\x7d' :: rest => return ((Node.table .named after).toValue, rest)
      | _ => none

end

/-- A document as read so far, and the path of the table that the next assignment goes to. -/
structure Document where
  root : Node.Entries
  current : List String

def Document.assign (d : Document) (path : List String) (key : String) (v : Value) :
    Option Document := do
  let root ← Node.descend false (Node.assign path key v) d.current .named d.root
  return { d with root := root }

/-- One line that is not empty. -/
def line (d : Document) (cs : List Char) : Option (Document × List Char) := do
  match cs with
  | '[' :: '[' :: rest =>
    let (path, key, rest) ← dottedKey (skipBlank rest)
    let rest ← expect ']' (skipBlank rest)
    let rest ← expect ']' rest
    let root ← Node.openElement path key d.root
    return (⟨root, path ++ [key]⟩, rest)
  | '[' :: rest =>
    let (path, key, rest) ← dottedKey (skipBlank rest)
    let rest ← expect ']' (skipBlank rest)
    let root ← Node.openTable path key d.root
    return (⟨root, path ++ [key]⟩, rest)
  | cs =>
    let (path, key, rest) ← dottedKey cs
    let rest ← expect '=' (skipBlank rest)
    let rest := skipBlank rest
    let (v, rest) ← value 0 (rest.length + 1) rest
    let d ← d.assign path key v
    return (d, rest)

def readLines : Nat → Document → List Char → Option Document
  | 0, d, _ => some d
  | n + 1, d, cs => do
    match ← skipAll cs with
    | [] => return d
    | cs =>
      let (d, rest) ← line d cs
      readLines n d (← lineEnd rest)

/-- The table that a text describes, or nothing if the text is not TOML. -/
def parse? (text : String) : Option Table := do
  let cs := match text.toList with
    | '\ufeff' :: rest => rest
    | cs => cs
  let d ← readLines (cs.length + 1) ⟨[], []⟩ cs
  return Node.entriesToValues d.root

end LintChain.Toml

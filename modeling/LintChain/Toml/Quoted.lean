import LintChain.Unicode.Ranges

/-!
Strings between quotes, on one line or on several. Between double quotes a backslash escapes;
between single quotes nothing does.
-/

namespace LintChain.Toml

/-- Characters that may not stand in a string or a comment. -/
def isForbidden (c : Char) : Bool := (c.toNat < 32 && c != '\t') || c == '\x7f'

/-- Exactly `n` hexadecimal digits that name a character. -/
def takeCodePoint : Nat → Nat → List Char → Option (Char × List Char)
  | 0, value, cs =>
    if value < 0xD800 ∨ (0xDFFF < value ∧ value < 0x110000) then some (Char.ofNat value, cs)
    else none
  | n + 1, value, c :: cs => do
    let d ← Unicode.Ranges.hexDigit? c
    takeCodePoint n (value * 16 + d) cs
  | _ + 1, _, [] => none

/-- The character that an escape stands for; its backslash is gone. -/
def takeEscape (cs : List Char) : Option (Char × List Char) :=
  match cs with
  | 'b' :: rest => some ('\x08', rest)
  | 't' :: rest => some ('\t', rest)
  | 'n' :: rest => some ('\n', rest)
  | 'f' :: rest => some ('\x0c', rest)
  | 'r' :: rest => some ('\r', rest)
  | 'e' :: rest => some ('\x1b', rest)
  | '"' :: rest => some ('"', rest)
  | '\\' :: rest => some ('\\', rest)
  | 'x' :: rest => takeCodePoint 2 0 rest
  | 'u' :: rest => takeCodePoint 4 0 rest
  | 'U' :: rest => takeCodePoint 8 0 rest
  | _ => none

/-- A line break at the head of the text. -/
def newline? (cs : List Char) : Option (List Char) :=
  match cs with
  | '\n' :: rest => some rest
  | '\r' :: '\n' :: rest => some rest
  | _ => none

/-- Drops a backslash's line end: blanks, a line break, and the blanks and line breaks after it. -/
def continuation? (cs : List Char) : Option (List Char) :=
  let isBlank (c : Char) : Bool := c == ' ' || c == '\t'
  (newline? (cs.dropWhile isBlank)).map go
where
  go : List Char → List Char
    | [] => []
    | '\r' :: '\n' :: rest => go rest
    | c :: rest => if c = ' ' ∨ c = '\t' ∨ c = '\n' then go rest else c :: rest

/-- The rest of a string on one line; `text` holds what was read, last character first. -/
def basicRest : Nat → List Char → List Char → Option (String × List Char)
  | 0, _, _ => none
  | n + 1, text, cs =>
    match cs with
    | '"' :: rest => some (String.ofList text.reverse, rest)
    | '\\' :: rest => do
      let (c, rest) ← takeEscape rest
      basicRest n (c :: text) rest
    | c :: rest => if isForbidden c then none else basicRest n (c :: text) rest
    | [] => none

def literalRest : List Char → List Char → Option (String × List Char)
  | text, c :: rest =>
    if c = '\'' then some (String.ofList text.reverse, rest)
    else if isForbidden c then none
    else literalRest (c :: text) rest
  | _, [] => none

/-- How many of the first characters are `q`, counted up to five. -/
def quoteRun (q : Char) (cs : List Char) : Nat := ((cs.take 5).takeWhile (· = q)).length

/-- The end of a string on several lines: three quotes, after up to two that belong to it. -/
def closing? (q : Char) (text cs : List Char) : Option (String × List Char) :=
  let run := quoteRun q cs
  if run < 3 then none
  else some (String.ofList (text.reverse ++ List.replicate (run - 3) q), cs.drop run)

/-- The rest of a string on several lines. -/
def multiRest (q : Char) : Nat → List Char → List Char → Option (String × List Char)
  | 0, _, _ => none
  | n + 1, text, cs =>
    match closing? q text cs with
    | some found => some found
    | none =>
      match newline? cs with
      | some rest =>
        let broken := if cs.head? = some '\r' then '\n' :: '\r' :: text else '\n' :: text
        multiRest q n broken rest
      | none =>
        match cs with
        | [] => none
        | c :: rest =>
          if c = '\\' ∧ q = '"' then
            match continuation? rest with
            | some rest => multiRest q n text rest
            | none => do
              let (e, rest) ← takeEscape rest
              multiRest q n (e :: text) rest
          else if isForbidden c then none
          else multiRest q n (c :: text) rest

/-- A string on one line, from its opening quote. -/
def shortString? (cs : List Char) : Option (String × List Char) :=
  match cs with
  | '"' :: rest => basicRest (rest.length + 1) [] rest
  | '\'' :: rest => literalRest [] rest
  | _ => none

/-- A string from its opening quotes; a line break right after three of them is dropped. -/
def string? (cs : List Char) : Option (String × List Char) :=
  match cs with
  | '"' :: '"' :: '"' :: rest =>
    let rest := (newline? rest).getD rest
    multiRest '"' (rest.length + 1) [] rest
  | '\'' :: '\'' :: '\'' :: rest =>
    let rest := (newline? rest).getD rest
    multiRest '\'' (rest.length + 1) [] rest
  | cs => shortString? cs

end LintChain.Toml

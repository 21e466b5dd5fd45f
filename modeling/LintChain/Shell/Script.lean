import LintChain.Text.Octets

/-!
Shell scripts as data. A word is a list of parts, each quoted or not; a quoted part is neither split
into fields nor read as a pattern.
-/

namespace LintChain.Shell

open Text (Octets)

mutual

inductive Part
  | text (quoted : Bool) (octets : Octets)
  | parameter (quoted : Bool) (name : Octets) (form : Form)
  /-- What a script prints. -/
  | output (quoted : Bool) (script : Command)
  /-- The value of an arithmetic expression, its text being a word. -/
  | number (quoted : Bool) (expression : List Part)

/-- What is made of a parameter's value. With `empty` an empty value counts as unset. -/
inductive Form
  | value
  | length
  | orElse (empty : Bool) (word : List Part)
  | assign (empty : Bool) (word : List Part)
  | instead (empty : Bool) (word : List Part)
  /-- Ends the script with a message if there is no value. -/
  | require (empty : Bool) (word : List Part)
  /-- Without a shortest or longest match of a pattern at its end. -/
  | trimEnd (longest : Bool) (pattern : List Part)
  | trimStart (longest : Bool) (pattern : List Part)

inductive Redirection
  | input (path : List Part)
  /-- The text that follows in the script. -/
  | document (text : List Part)
  | output (descriptor : Nat) (append : Bool) (path : List Part)
  | copy (descriptor source : Nat)
  | close (descriptor : Nat)

inductive Command
  | nothing
  | simple (line : Nat) (assignments : List (Octets × List Part)) (words : List (List Part))
      (redirections : List Redirection)
  | redirected (line : Nat) (body : Command) (redirections : List Redirection)
  | subshell (body : Command)
  | sequence (first second : Command)
  | both (first second : Command)
  | either (first second : Command)
  | negated (body : Command)
  | pipe (first second : Command)
  | conditional (test yes no : Command)
  /-- Goes on while the test succeeds, or while it fails if `negated` is set. -/
  | loop (negated : Bool) (test body : Command)
  /-- Runs for each field of the words, or for each argument of the script. -/
  | each (line : Nat) (name : Octets) (words? : Option (List (List Part))) (body : Command)
  | choice (line : Nat) (subject : List Part) (arms : List (List (List Part) × Command))
  | define (name : Octets) (body : Command)

end

/-- Whether a form makes nothing of an unset parameter. -/
def Form.needsValue : Form → Bool
  | value | length | trimEnd .. | trimStart .. => true
  | _ => false

instance : Inhabited Command := ⟨.nothing⟩

end LintChain.Shell

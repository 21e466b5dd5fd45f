import LintChain.FileTree
import LintChain.Text.Octets

/-!
What the standard utilities have in common. A utility sees a tree of files, its arguments and its
input, and leaves a tree, what it wrote and a status.
-/

namespace LintChain.Shell

open Text (Octets)

/-- What a utility works with. -/
structure Job where
  tree : FileTree
  cwd : Path
  args : List Octets
  input : Octets

/-- What a utility leaves. -/
structure Effect where
  tree : FileTree
  /-- What it did not read. -/
  input : Octets
  output : Octets
  errors : Octets
  status : Nat
  /-- The nanoseconds that it takes. -/
  span : Nat

namespace Job

/-- Nothing done yet. -/
def begin (job : Job) : Effect := ⟨job.tree, job.input, [], [], 0, 0⟩

def path (job : Job) (operand : Octets) : Path :=
  if operand = [] then ⟨""⟩ else job.cwd.join ⟨operand.toText⟩

end Job

namespace Effect

def write (e : Effect) (octets : Octets) : Effect := { e with output := e.output ++ octets }

def writeLine (e : Effect) (line : Octets) : Effect := e.write (line ++ ['\n'])

/-- With a message about a failure. -/
def fail (e : Effect) (status : Nat) (message : Octets) : Effect :=
  { e with errors := e.errors ++ message ++ ['\n'], status }

def quotedOperand (operand : Octets) : Octets := '\'' :: operand ++ ['\'']

/-- Complains about an operand. -/
def refuse (e : Effect) (utility what : String) (operand : Octets) (reason : SystemError) :
    Effect :=
  e.fail 1 (utility.toList ++ ": ".toList ++ what.toList ++ quotedOperand operand ++ ": ".toList ++
    reason.text.toList)

/-- Takes a new tree, or complains. -/
def attempt (e : Effect) (utility what : String) (operand : Octets)
    (result : Except SystemError FileTree) : Effect :=
  match result with
  | .ok tree => { e with tree }
  | .error reason => e.refuse utility what operand reason

end Effect

namespace Utility

/-- The options in front of the operands, and the operands. -/
def spanOptions (args : List Octets) : List Octets × List Octets :=
  let options := args.takeWhile fun a => a.head? = some '-' && a.length > 1 && a ≠ ['-', '-']
  let rest := args.drop options.length
  (options, if rest.head? = some ['-', '-'] then rest.tail else rest)

def hasFlag (options : List Octets) (flag : Char) : Bool :=
  options.any fun o => o.tail.contains flag

/-- What an operand of a filter gives to read; `-` is the input. -/
def contents (job : Job) (operand : Octets) : Except SystemError Octets :=
  if operand = ['-'] then .ok job.input
  else (job.tree.read (job.path operand)).map Octets.ofBytes

/-- What a complaint about an operand starts with. -/
def mention (utility : String) (operand : Octets) : Octets :=
  utility.toList ++ ": ".toList ++ operand

/-- The texts of the operands of a filter, the input where there are none, with complaints about
those that cannot be read. -/
def gather (job : Job) (mention : Octets → Octets) (operands : List Octets) :
    List (Octets × Octets) × Effect :=
  let operands := if operands.isEmpty then [['-']] else operands
  let left := if operands.contains ['-'] then [] else job.input
  let start : Effect := { job.begin with input := left }
  operands.foldl (fun (texts, e) operand =>
    match contents job operand with
    | .ok text => (texts ++ [(operand, text)], e)
    | .error reason =>
      (texts, e.fail 1 (mention operand ++ ": ".toList ++ reason.text.toList))) ([], start)

/-- The lines of a text, without their ends. -/
def linesOf (text : Octets) : List Octets :=
  let pieces := Text.fields '\n' text
  if pieces.getLast? = some [] then pieces.dropLast else pieces

def unlines (lines : List Octets) : Octets := lines.flatMap (· ++ ['\n'])

end Utility

end LintChain.Shell

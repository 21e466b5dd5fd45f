import LintChain.Shell.Utility.Edit
import LintChain.Shell.Utility.File

/-!
The standard utilities that scripts call.
-/

namespace LintChain.Shell.Utility

open Text (Octets)

def seq (job : Job) : Effect :=
  let numbers := job.args.filterMap Octets.toInt?
  let (first, step, last) :=
    match numbers with
    | [last] => (1, 1, last)
    | [first, last] => (first, 1, last)
    | [first, step, last] => (first, step, last)
    | _ => (1, 1, 0)
  let count := if step = 0 then 0 else ((last - first) / step + 1).toNat
  let number (i : Nat) : Octets := Octets.ofInt (first + step * (i : Int))
  job.begin.write (unlines ((List.range count).map number))

/-- The nanoseconds that a number of seconds with a point is. -/
def secondsSpan? (text : Octets) : Option Nat :=
  let whole := text.takeWhile Char.isDigit
  let rest := text.drop whole.length
  match rest with
  | [] => (Octets.toNat? whole).map (· * 1000000000)
  | 's' :: [] => (Octets.toNat? whole).map (· * 1000000000)
  | '.' :: digits =>
    if digits.all Char.isDigit ∧ (whole ≠ [] ∨ digits ≠ []) then
      let places := (digits ++ List.replicate 9 '0').take 9
      some ((Octets.toNat? whole).getD 0 * 1000000000 + (Octets.toNat? places).getD 0)
    else none
  | _ => none

def sleep (job : Job) : Effect :=
  job.args.foldl (fun e arg =>
    match secondsSpan? arg with
    | some span => { e with span := e.span + span }
    | none =>
      e.fail 1 ("sleep: invalid time interval ".toList ++ Effect.quotedOperand arg)) job.begin

/-- The utilities by their names. -/
def all : List (String × (Job → Effect)) := [
  ("basename", basename), ("cat", cat), ("chmod", chmod),
  ("cp", fun job => eachToLast job "cp" (copyFile job)), ("cut", cut), ("dirname", dirname),
  ("false", fun job => { job.begin with status := 1 }), ("grep", grep), ("head", head),
  ("ln", ln), ("ls", ls), ("mkdir", mkdir),
  ("mv", fun job => eachToLast job "mv" (moveFile job)), ("rm", rm), ("rmdir", rmdir),
  ("sed", Edit.sed), ("seq", seq), ("sleep", sleep), ("sort", sortLines), ("tail", tail),
  ("tee", tee), ("touch", touch), ("tr", tr), ("true", Job.begin), ("uniq", uniq), ("wc", wc)]

def find? (name : String) : Option (Job → Effect) := (all.find? (·.1 = name)).map (·.2)

end LintChain.Shell.Utility

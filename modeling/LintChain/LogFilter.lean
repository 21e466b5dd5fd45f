import LintChain.Text.Octets
import LintChain.Text.Split
import LintChain.Unicode.Category
import LintChain.Warning

/-!
The log filter: a list of directives, each with a level for all targets or for those whose names
begin alike. A message follows the directive that asks for the longest beginning of its target, and
among those the one that asks for most of its fields.
-/

namespace LintChain

/-- A level for the messages of some targets: 0 lets nothing pass, 5 everything. -/
structure LogDirective where
  /-- How the names of the targets begin; nothing for all. -/
  target : String
  /-- The fields that a message must have. -/
  fields : List String
  level : Nat

namespace LogDirective

def levelNames : List String := ["off", "error", "warn", "info", "debug", "trace"]

/-- The number of a level, which may itself be given as a number. -/
def level? (text : String) : Option Nat :=
  let digits := if text.startsWith "+" then (text.drop 1).toString else text
  match Text.Octets.toNat? digits.toList with
  | some n => if n ≤ 5 then some n else none
  | none => levelNames.idxOf? (text.map Char.toLower)

/-- How far a directive is read, with the place where the part being read begins. -/
inductive Place
  | start
  | word (begins : Nat)
  | span (begins : Nat)
  | field (begins : Nat)
  | afterFields
  | afterSpan
  | level (begins : Nat)

/-- A directive being read. -/
structure Reader where
  text : ByteArray
  place : Place
  target : String
  /-- Whether it is for what happens inside a span of some name. -/
  isNamed : Bool
  fields : List String

namespace Reader

/-- The text between two places, if both stand between characters. -/
def slice? (r : Reader) (begins ends : Nat) : Option String :=
  String.fromUTF8? (r.text.extract begins ends)

/-- With the field that ends at a place. -/
def addField? (r : Reader) (begins ends : Nat) (place : Place) : Option Reader := do
  let name ← r.slice? begins ends
  if name.isEmpty then none else some { r with fields := r.fields ++ [name], place }

def step (r : Reader) (at' : Nat) (c : Char) : Option Reader :=
  match r.place with
  | .start =>
    if c = '[' then some { r with place := .span (at' + 1) }
    else if Unicode.isAlphabetic c || Unicode.isNumeric c || "-:_".contains c then
      some { r with place := .word at' }
    else none
  | .word begins =>
    if c = '=' then do return { r with target := ← r.slice? begins at', place := .level (at' + 1) }
    else if c = '[' then do
      return { r with target := ← r.slice? begins at', place := .span (at' + 1) }
    else some r
  | .span begins =>
    if c = ']' then some { r with isNamed := true, place := .afterSpan }
    else if c = '\x7b' then do
      let name ← r.slice? begins at'
      return { r with isNamed := !name.isEmpty, place := .field (at' + 1) }
    else some r
  | .field begins => if c = '\x7d' then r.addField? begins at' .afterFields else some r
  | .afterFields => if c = ']' then some { r with place := .afterSpan } else none
  | .afterSpan => if c = '=' then some { r with place := .level (at' + 1) } else none
  | .level _ => some r

def run (r : Reader) (at' : Nat) : List Char → Option Reader
  | [] => some r
  | c :: rest => (r.step at' c).bind fun r => r.run (at' + c.utf8Size) rest

def finish (r : Reader) : Option LogDirective := do
  match r.place with
  | .word begins =>
    let text ← r.slice? begins r.text.size
    match level? text with
    | some level => return ⟨"", r.fields, level⟩
    | none => return ⟨text, r.fields, 5⟩
  | .level begins =>
    let text ← r.slice? begins r.text.size
    return ⟨r.target, r.fields, ← if text.isEmpty then some 5 else level? text⟩
  | .afterSpan => return ⟨r.target, r.fields, 5⟩
  | _ => none

/-- Whether the directive is for messages wherever they come from. -/
def isPlain (r : Reader) : Bool := !r.isNamed && !r.fields.any (·.contains '=')

end Reader

/-- Reads a directive. The blanks around it are passed over, but the places of its parts are counted
from the first character that is no blank, and looked up in the text with its blanks. A directive
for the inside of spans has no effect on messages. -/
def read (text : String) : Option (Option LogDirective) := do
  let front := text.toList.dropWhile Unicode.isWhiteSpace
  let trimmed := (front.reverse.dropWhile Unicode.isWhiteSpace).reverse
  let r ← Reader.run ⟨text.toUTF8, .start, "", false, []⟩ 0 trimmed
  let directive ← r.finish
  return if r.isPlain then some directive else none

end LogDirective

structure LogFilter where
  directives : List LogDirective

namespace LogFilter

/-- The filter that a text describes, if every directive in it can be read. -/
def parse? (text : String) : Option LogFilter := do
  let texts := ((Text.fields ',' text.toList).filter (· ≠ [])).map String.ofList
  let directives ← texts.mapM LogDirective.read
  return ⟨directives.filterMap id⟩

/-- The fields of every message. -/
def messageFields : List String :=
  ["message", "log.target", "log.module_path", "log.file", "log.line"]

def concerns (d : LogDirective) (target : String) : Bool :=
  d.target.toList.isPrefixOf target.toList && d.fields.all messageFields.contains

/-- Whether the second directive says as much as the first about whom it is for, or more. -/
def isAsSpecific (c d : LogDirective) : Bool :=
  c.target.length < d.target.length ||
    (c.target.length = d.target.length && c.fields.length ≤ d.fields.length)

/-- The level up to which messages of a target pass. -/
def level (f : LogFilter) (target : String) : Nat :=
  let better (best? : Option LogDirective) (d : LogDirective) : Option LogDirective :=
    match best? with
    | none => some d
    | some best => if isAsSpecific best d then some d else some best
  (((f.directives.filter (concerns · target)).foldl better none).map (·.level)).getD 0

def shows (f : LogFilter) (warning : Warning) : Bool := 2 ≤ f.level warning.target

/-- Whether the filter's own announcement passes. -/
def showsAnnouncement (f : LogFilter) : Bool := 4 ≤ f.level "polylint_logging"

def isBlank (text : String) : Bool := text.toList.all Unicode.isWhiteSpace

/-- The text of the filter in force: the first setting that is not blank, or the default. -/
def choose (own? general? : Option String) (verbose : Bool) : String :=
  match own?.filter (!isBlank ·), general?.filter (!isBlank ·) with
  | some text, _ => text
  | none, some text => text
  | none, none => if verbose then "polylint=debug" else "polylint=warn"

end LogFilter

end LintChain

import LintChain.Binary64

/-!
The values of a TOML document. The keys of a table stand in ascending order. Whole numbers may be
of any size: the format sets no bound, and it is for the reader of a value to refuse one.
-/

namespace LintChain.Toml

inductive Value
  | string (text : String)
  | integer (n : Int)
  /-- A word in the form of a whole number whose digits are missing or wrong. -/
  | unreadableInteger
  | float (x : Binary64)
  /-- A number in floating-point form that is too large for a double. -/
  | hugeFloat
  | boolean (b : Bool)
  /-- A date, a time or both, in the standard spelling. -/
  | datetime (text : String)
  | array (items : List Value)
  | table (entries : List (String × Value))

/-- Entries in ascending order of keys. -/
abbrev Table := List (String × Value)

/-- Puts an entry in its place, after any entry of the same key. -/
def insertSorted {α : Type} (key : String) (value : α) :
    List (String × α) → List (String × α)
  | [] => [(key, value)]
  | e :: rest =>
    if key < e.1 then (key, value) :: e :: rest else e :: insertSorted key value rest

end LintChain.Toml

import LintChain.Toml.Value

/-!
Tables under construction. A table remembers how it came to be, for only a table that no header has
named may still be named by one, and only one made by dotted keys may grow by dotted keys.
-/

namespace LintChain.Toml

/-- How a table came to be. -/
inductive Origin
  /-- On the way to the table of a header. -/
  | implied
  /-- On the way to the value of a dotted key. -/
  | dotted
  /-- Named by a header. -/
  | named
  deriving DecidableEq

inductive Node
  | value (v : Value)
  | table (origin : Origin) (entries : List (String × Node))
  /-- The tables of an array of tables, last first. -/
  | tables (elements : List Node)

namespace Node

abbrev Entries := List (String × Node)

def find? (es : Entries) (key : String) : Option Node := (es.find? fun e => e.1 == key).map (·.2)

def put (es : Entries) (key : String) (node : Node) : Entries :=
  insertSorted key node (es.filter fun e => e.1 != key)

/-- Changes the table at the end of a path, making the tables on the way that are missing. An array
of tables stands for its last table. -/
def descend (isDotted : Bool) (change : Origin → Entries → Option Entries) :
    List String → Origin → Entries → Option Entries
  | [], origin, es => change origin es
  | key :: path, _, es =>
    match find? es key with
    | none => do
      let origin := if isDotted then .dotted else .implied
      let inner ← descend isDotted change path origin []
      return put es key (.table origin inner)
    | some (.table origin inner) =>
      if isDotted ∧ origin = .named then none
      else do
        let inner ← descend isDotted change path origin inner
        return put es key (.table origin inner)
    | some (.tables (.table origin inner :: earlier)) => do
      let inner ← descend isDotted change path origin inner
      return put es key (.tables (.table origin inner :: earlier))
    | _ => none

/-- Names a table by a header. -/
def openTable (path : List String) (key : String) (root : Entries) : Option Entries :=
  descend false
    (fun _ es =>
      match find? es key with
      | none => some (put es key (.table .named []))
      | some (.table .implied inner) => some (put es key (.table .named inner))
      | _ => none)
    path .named root

/-- Adds a table to an array of tables by a header. -/
def openElement (path : List String) (key : String) (root : Entries) : Option Entries :=
  descend false
    (fun _ es =>
      match find? es key with
      | none => some (put es key (.tables [.table .named []]))
      | some (.tables elements) => some (put es key (.tables (.table .named [] :: elements)))
      | _ => none)
    path .named root

/-- Gives a key of a table a value; the key may be dotted, and must be new. -/
def assign (path : List String) (key : String) (v : Value) (origin : Origin) (es : Entries) :
    Option Entries :=
  descend true
    (fun origin es =>
      if (origin = .dotted) = path.isEmpty then none
      else if (find? es key).isSome then none
      else some (put es key (.value v)))
    path origin es

mutual

def toValue : Node → Value
  | .value v => v
  | .table _ entries => .table (entriesToValues entries)
  | .tables elements => .array (elementsToValues elements).reverse

def entriesToValues : Entries → List (String × Value)
  | [] => []
  | (key, node) :: rest => (key, node.toValue) :: entriesToValues rest

def elementsToValues : List Node → List Value
  | [] => []
  | node :: rest => node.toValue :: elementsToValues rest

end

end Node

end LintChain.Toml

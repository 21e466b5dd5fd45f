import LintChain.Text.Split

/-!
Paths as text, and their components. Repeated slashes and inner or trailing `.` pieces are no
components; a leading `.` is one. Paths are ordered by their components, so that a directory's
entries stand together: the root first, then `.`, then `..`, then names.
-/

namespace LintChain

inductive Component
  | root
  | current
  | parent
  | name (text : String)
  deriving DecidableEq, Repr

namespace Component

def rank : Component → Nat
  | root => 0
  | current => 1
  | parent => 2
  | name _ => 3

def text : Component → String
  | root => "/"
  | current => "."
  | parent => ".."
  | name text => text

def order (a b : Component) : Ordering :=
  match a, b with
  | name s, name t => compare s t
  | _, _ => compare a.rank b.rank

/-- The component that a piece between slashes stands for after the first one. -/
def ofPiece? (piece : List Char) : Option Component :=
  if piece = [] ∨ piece = ['.'] then none
  else if piece = ['.', '.'] then some parent
  else some (name (String.ofList piece))

end Component

structure Path where
  text : String
  deriving DecidableEq, Repr

namespace Path

instance : ToString Path := ⟨text⟩

instance : Inhabited Path := ⟨⟨""⟩⟩

def isAbsolute (p : Path) : Bool := p.text.toList.head? = some '/'

/-- The text between the slashes. -/
def pieces (p : Path) : List (List Char) := Text.fields '/' p.text.toList

def components (p : Path) : List Component :=
  match p.pieces with
  | [] => []
  | first :: rest =>
    let body := rest.filterMap Component.ofPiece?
    if first = [] then (if rest.isEmpty then [] else .root :: body)
    else if first = ['.'] then .current :: body
    else (Component.ofPiece? first).toList ++ body

def endsWithSlash (p : Path) : Bool := p.text.toList.getLast? = some '/'

/-- `q` below `p`: an absolute `q` stands for itself. -/
def join (p q : Path) : Path :=
  if q.isAbsolute ∨ p.text.isEmpty then q
  else if p.endsWithSlash then ⟨p.text ++ q.text⟩
  else ⟨p.text ++ "/" ++ q.text⟩

/-- `p` with more components below it. -/
def extend (p : Path) (cs : List Component) : Path := cs.foldl (fun q c => q.join ⟨c.text⟩) p

def ofComponents (cs : List Component) : Path := extend ⟨""⟩ cs

/-- A path of names below nothing. -/
def ofNames (names : List String) : Path := ofComponents (names.map .name)

/-- The way from `base` to `p`, spelled anew from its components. None if the components of `p` do
not start with those of `base`. -/
def stripPrefix? (p base : Path) : Option Path :=
  if base.components.isPrefixOf p.components then
    some (ofComponents (p.components.drop base.components.length))
  else none

/-- Without trailing pieces that are no component. -/
def trimPieces (keepFirst : Bool) (ps : List (List Char)) : List (List Char) :=
  match ps with
  | [] => []
  | first :: rest =>
    match trimPieces false rest with
    | [] => if first = [] ∨ (first = ['.'] ∧ ¬ keepFirst) then [] else [first]
    | kept => first :: kept

/-- The text up to the last component, without the slashes and dots before that component. -/
def parent? (p : Path) : Option Path :=
  let joined (ps : List (List Char)) : String := String.ofList (Text.unfields '/' ps)
  if p.isAbsolute then
    match trimPieces false p.pieces.tail with
    | [] => none
    | kept => some ⟨"/" ++ joined (trimPieces false kept.dropLast)⟩
  else
    match trimPieces true p.pieces with
    | [] => none
    | kept => some ⟨joined (trimPieces true kept.dropLast)⟩

/-- The last component, if it is a name. -/
def fileName? (p : Path) : Option String :=
  match p.components.getLast? with
  | some (.name text) => some text
  | _ => none

/-- The path and the directories above it, nearest first. -/
def ancestorsWithin : Nat → Path → List Path
  | 0, p => [p]
  | n + 1, p =>
    match p.parent? with
    | none => [p]
    | some q => p :: ancestorsWithin n q

def ancestors (p : Path) : List Path := ancestorsWithin p.text.length p

/-- Without `.` components and repeated or trailing slashes; what is left of nothing is `.`. -/
def normalize (p : Path) : Path :=
  let q := ofComponents (p.components.filter (· ≠ .current))
  if q.text.isEmpty then ⟨"."⟩ else q

/-- Made absolute against `cwd` without looking at any file: `..` stays, `.` and repeated slashes
go, a trailing slash and exactly two leading ones stay. An empty path is left as it is. -/
def absolute (cwd p : Path) : Path :=
  if p.text.isEmpty then p
  else
    let cs := p.components
    let base :=
      if p.isAbsolute then
        match p.text.toList with
        | '/' :: '/' :: rest =>
          if rest.head? = some '/' then ofComponents cs else extend ⟨"//"⟩ cs.tail
        | _ => ofComponents cs
      else extend cwd (if cs.head? = some .current then cs.tail else cs)
    if p.endsWithSlash then base.join ⟨""⟩ else base

/-- The lexicographic order of component lists. -/
def orderComponents : List Component → List Component → Ordering
  | [], [] => .eq
  | [], _ :: _ => .lt
  | _ :: _, [] => .gt
  | a :: as, b :: bs => (a.order b).then (orderComponents as bs)

def order (p q : Path) : Ordering := orderComponents p.components q.components

end Path

end LintChain

import LintChain.Host

/-!
A tree of files in memory. A path is followed piece by piece from the root; a link stands for its
target, and no more than forty links are followed. The tree belongs to one user, whose permissions
decide.
-/

namespace LintChain

inductive FileTree
  | file (bytes : ByteArray) (mode : Nat)
  | link (target : String)
  /-- A device that gives zero bytes without end, or none, and drops what is written. -/
  | device (zeros : Bool)
  | directory (mode : Nat) (entries : List (String × FileTree))

namespace FileTree

/-- A directory without entries. -/
def empty : FileTree := directory 0o755 []

instance : Inhabited FileTree := ⟨empty⟩

def isDirectory : FileTree → Bool
  | directory .. => true
  | _ => false

/-- The permissions; a device may be read and written by all, and a link has none of its own. -/
def mode? : FileTree → Option Nat
  | file _ mode => some mode
  | directory mode _ => some mode
  | device _ => some 0o666
  | link _ => none

/-- The entry of a directory that has a name. -/
def child? (name : String) : FileTree → Option FileTree
  | directory _ entries => (entries.find? (·.1 = name)).map (·.2)
  | _ => none

/-- What stands at a path of names, no link being followed. -/
def get? : List String → FileTree → Option FileTree
  | [], t => some t
  | name :: rest, t => (t.child? name).bind (get? rest)

/-- Puts, replaces or removes the entry with a name, a new one going to the end. -/
def alterEntry (name : String) (f : Option FileTree → Option FileTree) :
    List (String × FileTree) → List (String × FileTree)
  | [] => ((f none).map fun t => (name, t)).toList
  | (other, t) :: rest =>
    if other = name then
      match f (some t) with
      | some t => (name, t) :: rest
      | none => rest
    else (other, t) :: alterEntry name f rest

/-- Puts, replaces or removes what stands at a path of names, if its directory is there. -/
def alter (f : Option FileTree → Option FileTree) : List String → FileTree → FileTree
  | [], t => (f (some t)).getD t
  | [name], directory mode entries => directory mode (alterEntry name f entries)
  | name :: rest, directory mode entries =>
    directory mode (alterEntry name (fun t? => t?.map (alter f rest)) entries)
  | _, t => t

def put (t : FileTree) (names : List String) (node : FileTree) : FileTree :=
  t.alter (fun _ => some node) names

def erase (names : List String) (t : FileTree) : FileTree := t.alter (fun _ => none) names

/-- Whether the owner may read (4), write (2) or execute (1) what has a mode. -/
def allows (mode bit : Nat) : Bool := mode / 64 / bit % 2 = 1

/-- Whether the entries of a directory may be looked up. -/
def isSearchable : FileTree → Bool
  | directory mode _ => allows mode 1
  | _ => false

/-- The most links followed on one path. -/
def maxLinks : Nat := 40

/-- The most bytes of a name. -/
def maxNameLength : Nat := 255

/-- The most bytes of a path. -/
def maxPathLength : Nat := 4095

/-- Where a path leads: the names from the root without links, and what stands there, if anything
does. Everything but the last name is there. -/
structure Spot where
  names : List String
  node? : Option FileTree

/-- Follows the pieces of a path from the directory `here`. A link in the last place is followed on
request. -/
def follow (root : FileTree) (followLast : Bool) (links : Nat) (here : List String)
    (pieces : List (List Char)) : Except SystemError Spot :=
  match pieces with
  | [] => .ok ⟨here, root.get? here⟩
  | piece :: rest =>
    match root.get? here with
    | none => .error .notFound
    | some node =>
      if !node.isDirectory then .error .notDirectory
      else if piece = [] then follow root followLast links here rest
      else if !node.isSearchable then .error .denied
      else if piece = ['.'] then follow root followLast links here rest
      else if piece = ['.', '.'] then follow root followLast links here.dropLast rest
      else
        let name := String.ofList piece
        if maxNameLength < name.utf8ByteSize then .error .nameTooLong
        else
          match node.child? name with
          | none => if rest = [] then .ok ⟨here ++ [name], none⟩ else .error .notFound
          | some (link target) =>
            if rest = [] ∧ !followLast then .ok ⟨here ++ [name], some (link target)⟩
            else
              match links with
              | 0 => .error .tooManyLinks
              | links + 1 =>
                let start := if target.toList.head? = some '/' then [] else here
                follow root followLast links start (Text.fields '/' target.toList ++ rest)
          | some _ => follow root followLast links (here ++ [name]) rest
termination_by (links, pieces.length)

/-- Where an absolute path leads. -/
def locate (t : FileTree) (followLast : Bool) (path : Path) : Except SystemError Spot :=
  if path.text.isEmpty then .error .notFound
  else if holdsZero path.text then .error .zeroInPath
  else if maxPathLength < path.text.utf8ByteSize then .error .nameTooLong
  else t.follow followLast maxLinks [] path.pieces

/-- What stands at the end of a path, links followed. -/
def lookUp (t : FileTree) (path : Path) : Except SystemError (List String × FileTree) := do
  match ← t.locate true path with
  | ⟨names, some node⟩ => return (names, node)
  | ⟨_, none⟩ => throw .notFound

def kind? (t : FileTree) (path : Path) : Option FileKind :=
  match t.lookUp path with
  | .ok (_, file ..) => some .file
  | .ok (_, directory ..) => some .directory
  | .ok _ => some .other
  | .error _ => none

/-- The names from the root of a directory in which a process may work. -/
def enter (t : FileTree) (path : Path) : Except SystemError (List String) := do
  let (names, node) ← t.lookUp path
  if !node.isDirectory then throw .notDirectory
  else if !node.isSearchable then throw .denied
  else return names

def namesPath (names : List String) : Path := Path.extend ⟨"/"⟩ (names.map .name)

def canonical? (t : FileTree) (path : Path) : Option Path :=
  match t.lookUp path with
  | .ok (names, _) => some (namesPath names)
  | .error _ => none

def read (t : FileTree) (path : Path) : Except SystemError ByteArray := do
  match ← t.lookUp path with
  | (_, file bytes mode) => if allows mode 4 then return bytes else throw .denied
  | (_, directory ..) => throw .isDirectory
  | _ => return .empty

def isExecutable (t : FileTree) (path : Path) : Bool :=
  match t.lookUp path with
  | .ok (_, file _ mode) => allows mode 1
  | _ => false

mutual

/-- What a walk that follows no links meets below a directory, which may be out of reach. -/
def listing (reachable : Bool) : FileTree → Listing
  | file .. => .file
  | link _ => .other
  | device _ => .other
  | directory mode entries =>
    if reachable && allows mode 4 then .directory (listings (allows mode 1) entries)
    else .unreadable .denied

def listings (reachable : Bool) : List (String × FileTree) → List (String × Listing)
  | [] => []
  | (name, node) :: rest => (name, node.listing reachable) :: listings reachable rest

end

def list (t : FileTree) (path : Path) : Listing :=
  match t.lookUp path with
  | .ok (_, node) => node.listing true
  | .error reason => .unreadable reason

/-- Refuses to change the entries of the directory of a place unless that may be written to. -/
def guardDirectory (t : FileTree) (spot : Spot) : Except SystemError Unit :=
  match t.get? spot.names.dropLast with
  | some (directory mode _) => if allows mode 2 then .ok () else .error .denied
  | _ => .error .notDirectory

/-- Whether a file can be made or written anew at a path, and where. -/
def writable (t : FileTree) (path : Path) : Except SystemError Spot := do
  let spot ← t.locate true path
  match spot.node? with
  | some (directory ..) => throw .isDirectory
  | some (file _ mode) => if allows mode 2 then return spot else throw .denied
  | some _ => return spot
  | none =>
    t.guardDirectory spot
    return spot

/-- Puts bytes into a file, after what it has or in place of it. -/
def store (append : Bool) (bytes : ByteArray) (names : List String) (t : FileTree) : FileTree :=
  t.alter (fun
    | some (file old mode) => some (file (if append then old ++ bytes else bytes) mode)
    | some other => some other
    | none => some (file bytes 0o644)) names

/-- Writes a file, as the contents or after them. -/
def write (append : Bool) (path : Path) (bytes : ByteArray) (t : FileTree) :
    Except SystemError FileTree :=
  (t.writable path).map fun spot => t.store append bytes spot.names

/-- Makes a directory in a directory that is there. -/
def makeDirectory (path : Path) (t : FileTree) : Except SystemError FileTree := do
  let spot ← t.locate false ⟨String.ofList (path.text.toList.reverse.dropWhile (· = '/')).reverse⟩
  match spot.node? with
  | some _ => throw .exists
  | none =>
    t.guardDirectory spot
    return t.put spot.names empty

/-- Makes the directories of a path that are not there. -/
def makeDirectories (path : Path) (t : FileTree) : FileTree :=
  path.ancestors.reverse.foldl (fun t p =>
    match t.makeDirectory p with
    | .ok t => t
    | .error _ => t) t

def makeLink (target : String) (path : Path) (t : FileTree) : Except SystemError FileTree := do
  let spot ← t.locate false path
  match spot.node? with
  | some _ => throw .exists
  | none =>
    t.guardDirectory spot
    return t.put spot.names (link target)

/-- Removes anything but a directory. -/
def unlink (path : Path) (t : FileTree) : Except SystemError FileTree := do
  let spot ← t.locate false path
  match spot.node? with
  | none => throw .notFound
  | some (directory ..) => throw .isDirectory
  | some _ =>
    t.guardDirectory spot
    return t.erase spot.names

/-- Removes whatever stands at a path, with all below it. -/
def removeAll (path : Path) (t : FileTree) : Except SystemError FileTree := do
  let spot ← t.locate false path
  match spot.node? with
  | none => throw .notFound
  | some _ =>
    t.guardDirectory spot
    return t.erase spot.names

/-- Gives what stands at one path to another, in place of a file there. -/
def rename (source target : Path) (t : FileTree) : Except SystemError FileTree := do
  let old ← t.locate false source
  match old.node? with
  | none => throw .notFound
  | some node =>
    let new ← t.locate false target
    t.guardDirectory old
    t.guardDirectory new
    match new.node? with
    | some (directory ..) => throw .isDirectory
    | _ => return (t.erase old.names).put new.names node

def setMode (mode : Nat) (path : Path) (t : FileTree) : Except SystemError FileTree := do
  let (names, node) ← t.lookUp path
  match node with
  | file bytes _ => return t.put names (file bytes mode)
  | directory _ entries => return t.put names (directory mode entries)
  | _ => return t

end FileTree

end LintChain

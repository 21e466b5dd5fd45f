import LintChain.Config.Basic
import LintChain.Session

/-!
The files that path arguments stand for. A file stands for itself and a directory for all files
below it; of several spellings of one file the first that is in scope is kept. The files come in
the order of their paths.
-/

namespace LintChain

/-- A file to be linted. -/
structure Target where
  /-- As the user spelled it, without `.` components. -/
  path : Path
  /-- Below the working directory. -/
  absolute : Path
  deriving DecidableEq

namespace Target

def order (a b : Target) : Ordering := (a.path.order b.path).then (a.absolute.order b.absolute)

def le (a b : Target) : Bool := a.order b != .gt

end Target

/-- Of several elements with one key, the first. -/
def keepFirst {α κ : Type} [DecidableEq κ] (key : α → κ) : List α → List α
  | [] => []
  | a :: rest => a :: (keepFirst key rest).filter fun b => key b ≠ key a

namespace Listing

mutual

/-- The files of a listing and the places that could not be read, by their names from the top. -/
def files : Listing → List (List String × Option SystemError)
  | file => [([], none)]
  | other => []
  | unreadable reason => [([], some reason)]
  | directory entries => entryFiles entries

def entryFiles : List (String × Listing) → List (List String × Option SystemError)
  | [] => []
  | (name, listing) :: rest =>
    listing.files.map (fun (names, reason?) => (name :: names, reason?)) ++ entryFiles rest

end

end Listing

namespace Discovery

variable {σ : Type}

/-- A file that a walk finds below the directory at `absolute`, which `path` is a spelling of. None
if the way to the file does not start there. -/
def targetBelow? (path absolute : Path) (names : List String) : Option Target :=
  let entry := absolute.extend (names.map .name)
  (entry.stripPrefix? absolute).map fun below => ⟨(path.join below).normalize, entry⟩

def unreadableWarning (argument absolute : Path) (names : List String) (reason : SystemError) :
    Warning :=
  .unreadableEntry argument
    ("IO error for operation on " ++ (absolute.extend (names.map .name)).text ++ ": " ++
      reason.message)

/-- The files that one argument stands for, in scope or not. -/
def candidates (host : Host σ) (state : σ) (cwd argument : Path) : List Target × List Warning :=
  let path := argument.normalize
  let absolute := cwd.join path
  match host.kind? state absolute with
  | none => ([], [.skippedArgument argument])
  | some .other => ([], [])
  | some .file => ([⟨path, absolute⟩], [])
  | some .directory =>
    let found := (host.list state absolute).files
    (found.filterMap fun
      | (names, none) => targetBelow? path absolute names
      | (_, some _) => none,
     found.filterMap fun
      | (_, none) => none
      | (names, some reason) => some (unreadableWarning argument absolute names reason))

/-- What tells whether two targets are the same file. -/
def key (host : Host σ) (state : σ) (target : Target) : List Component :=
  ((host.canonical? state target.absolute).getD target.absolute).components

/-- One target for each file in scope, in order. -/
def select (host : Host σ) (state : σ) (config : Config) (found : List Target) : List Target :=
  let inScope := found.filter fun t => config.isInScope t.path.text
  (keepFirst (key host state) inScope).mergeSort Target.le

def discover (host : Host σ) (state : σ) (config : Config) (cwd : Path) (arguments : List Path) :
    List Target × List Warning :=
  let found := arguments.map (candidates host state cwd)
  (select host state config (found.flatMap (·.1)), found.flatMap (·.2))

end Discovery

end LintChain

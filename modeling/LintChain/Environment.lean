import LintChain.Linter
import LintChain.Path
import LintChain.Warning

/-!
The environment of a run, and the variables that a tool gets on top of it. Only pyright gets any: it
is kept from using a node that is installed for all, and its own goes to a fixed directory.
-/

namespace LintChain

structure Environment where
  /-- The working directory, against which relative directories in variables are resolved. -/
  directory : Path
  bindings : List (String × String)
  /-- The home directory of the account. -/
  accountHome? : Option String

namespace Environment

def get? (env : Environment) (name : String) : Option String :=
  (env.bindings.find? (·.1 = name)).map (·.2)

def set (env : Environment) (name value : String) : Environment :=
  { env with bindings := (name, value) :: env.bindings.filter (·.1 ≠ name) }

/-- The value of a variable that is set and not empty. -/
def nonempty? (env : Environment) (name : String) : Option String :=
  (env.get? name).filter (! ·.isEmpty)

def home? (env : Environment) : Option Path :=
  ((env.nonempty? "HOME").orElse fun _ => env.accountHome?).map Path.mk

/-- The directory for the data of programs. -/
def dataHome? (env : Environment) : Option Path :=
  match env.nonempty? "XDG_DATA_HOME" with
  | some text => some ⟨text⟩
  | none => env.home?.map fun home => (home.join ⟨".local"⟩).join ⟨"share"⟩

/-- The directory that pyright is to keep its own node in. -/
def pyrightDirectory? (env : Environment) : Option Path :=
  match env.nonempty? "PYRIGHT_PYTHON_ENV_DIR" with
  | some text => some ⟨text⟩
  | none => env.dataHome?.map (·.join ⟨"pyright"⟩)

/-- The variables that a linter gets, with a warning if one cannot be given. -/
def toolVariables (env : Environment) (linter : Linter) :
    List (String × String) × List Warning :=
  if linter = .pyright then
    let globalNode := ("PYRIGHT_PYTHON_GLOBAL_NODE", "off")
    match env.pyrightDirectory? with
    | some directory =>
      ([globalNode, ("PYRIGHT_PYTHON_ENV_DIR", (env.directory.absolute directory).text)], [])
    | none => ([globalNode], [.noDataDirectory])
  else ([], [])

end Environment

end LintChain

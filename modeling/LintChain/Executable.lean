import LintChain.Environment
import LintChain.Host

/-!
Finding the program that a name stands for. A name of several components is a path, taken below the
working directory unless it is absolute; any other name is looked for in the directories of a
search path, the first that has it winning.
-/

namespace LintChain.Executable

/-- `path` below `cwd` by its components, without leading `.`; an absolute path is left as it is. -/
def below (cwd path : Path) : Path :=
  if path.isAbsolute then path
  else cwd.extend (path.components.dropWhile (· = .current))

/-- A directory that begins with `~` begins with the home directory. -/
def expandHome (home? : Option Path) (directory : Path) : Path :=
  match home?, directory.components with
  | some home, .name "~" :: rest => home.extend rest
  | _, _ => directory

/-- The directories of a search path. -/
def directories (searchPath : String) : List Path :=
  (Text.fields ':' searchPath.toList).map fun piece => ⟨String.ofList piece⟩

/-- The places where a program of this name may be, best first. -/
def candidates (env : Environment) (searchPath? : Option String) (cwd : Path) (name : String) :
    List Path :=
  if 1 < (Path.mk name).components.length then [below cwd ⟨name⟩]
  else
    match searchPath?.orElse fun _ => env.get? "PATH" with
    | none => []
    | some searchPath =>
      (directories searchPath).map fun directory =>
        (below cwd (expandHome env.home? directory)).join ⟨name⟩

variable {σ : Type}

/-- The first candidate that is an executable file. -/
def find? (host : Host σ) (state : σ) (env : Environment) (searchPath? : Option String) (cwd : Path)
    (name : String) : Option Path :=
  if name.isEmpty then none
  else (candidates env searchPath? cwd name).find? (host.isExecutable state)

end LintChain.Executable

import LintChain.Config.Basic
import LintChain.Environment
import LintChain.Host
import LintChain.Text.Utf8

/-!
Finding the manifest: the nearest directory above the start, itself included, that has one decides.
-/

namespace LintChain.Config

variable {σ : Type}

/-- The directories in which the manifest is looked for, nearest first. -/
def searchDirectories (env : Environment) (start : Path) : List Path :=
  (env.directory.absolute start).ancestors

def findManifest (host : Host σ) (state : σ) (env : Environment) (start : Path) :
    Except ConfigError Path :=
  let directories := searchDirectories env start
  match (directories.map (·.join ⟨manifestName⟩)).find? (host.isFile state) with
  | some manifest => .ok manifest
  | none => .error (.manifestNotFound directories)

def readManifest (host : Host σ) (state : σ) (manifest : Path) : Except ConfigError String :=
  match host.read state manifest with
  | .error reason => .error (.unreadable manifest reason.message)
  | .ok bytes =>
    match Text.Utf8.decode? bytes with
    | some text => .ok text
    | none => .error (.unreadable manifest "stream did not contain valid UTF-8")

/-- The configuration that holds in a directory. -/
def resolve (host : Host σ) (state : σ) (env : Environment) (start : Path) :
    List Warning × Except ConfigError Config :=
  let found := do
    let manifest ← findManifest host state env start
    let contents ← readManifest host state manifest
    return (manifest, contents)
  match found with
  | .error e => ([], .error e)
  | .ok (manifest, contents) => parse manifest contents

end LintChain.Config

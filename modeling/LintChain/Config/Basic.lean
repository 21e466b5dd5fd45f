import LintChain.Catalog
import LintChain.Config.Section
import LintChain.Glob
import LintChain.Path
import LintChain.Regex.Parser
import LintChain.Retry
import LintChain.Toml.Parser
import LintChain.Warning

/-!
The configuration of a run: the catalog with the user's settings on top. Settings are checked in a
fixed order, and the first that is wrong is reported: the document as a whole, the global include,
the exclude globs, the linters' tables in ascending order of their keys, the jobs, the timeout.
-/

namespace LintChain

open Toml (Value Table DecodeError)

def manifestName : String := "pyproject.toml"

/-- Files in scope where the manifest does not say. -/
def defaultInclude : String := "\\.py$"

inductive ConfigError
  | manifestNotFound (searched : List Path)
  | unreadable (manifest : Path) (reason : String)
  | notToml (manifest : Path)
  | malformed (manifest : Path) (cause : DecodeError)
  | badSection (linter : Linter) (cause : Config.OverrideError)
  | badInclude (pattern : String) (cause : Regex.Error)
  | badExclude (pattern : String) (cause : Glob.Error)
  | badExcludeSet (patterns : List String) (cause : Glob.SetError)
  | noJobs
  | noTimeout

/-- The report on a document: a heading, a frame of three lines for the place, which is left blank,
and the reason. -/
def documentReport (reason : String) : List String :=
  ["TOML parse error", "\n", "  |\n", "  |\n", "  |\n", reason, "\n"]

/-- The message in the pieces that it is written in. -/
def ConfigError.pieces : ConfigError → List String
  | manifestNotFound searched =>
    ["\"" ++ manifestName ++ "\" could not be located in the search paths: " ++
      Text.Quoted.encodeList true (searched.map (·.text))]
  | unreadable manifest reason => ["Failed to read '", manifest.text, "': ", reason]
  | notToml manifest =>
    ["Failed to parse '", manifest.text, "': "] ++ documentReport "invalid document"
  | malformed manifest cause =>
    ["Failed to parse '", manifest.text, "': "] ++ documentReport cause.message
  | badSection linter cause =>
    ("Invalid [tool.lint." ++ linter.name ++ "] section: ") :: cause.pieces
  | badInclude pattern cause => ["Invalid include pattern '", pattern, "': ", cause.report pattern]
  | badExclude pattern cause =>
    ["Invalid exclude pattern '", pattern, "': error parsing glob '", pattern, "': "] ++
      cause.pieces
  | badExcludeSet patterns cause =>
    ["Invalid exclude pattern '", ", ".intercalate patterns, "': "] ++ cause.pieces
  | noJobs => ["Invalid jobs value 0: at least one worker is required"]
  | noTimeout => ["Invalid timeout value 0: leave it unset to disable the timeout"]

def ConfigError.message (e : ConfigError) : String := String.join e.pieces

/-- A linter with the user's settings. -/
structure ResolvedLinter where
  linter : Linter
  enabled : Bool
  /-- The name or path of the binary. -/
  executable : String
  /-- Passed after the catalog's arguments. -/
  options : List String
  /-- Narrows the files that the linter sees. -/
  include? : Option Regex

namespace ResolvedLinter

def ofSpec (spec : Spec) : ResolvedLinter :=
  ⟨spec.linter, spec.enabledByDefault, spec.executable, [], none⟩

def spec (r : ResolvedLinter) : Spec := r.linter.spec

def args (r : ResolvedLinter) : List String := r.spec.args ++ r.options

/-- Whether the linter is to see the file with this path. -/
def includes (r : ResolvedLinter) (path : String) : Bool :=
  match r.include? with
  | none => true
  | some pattern => pattern.isMatch path

/-- `o` on top of `r`; the include of `o` comes compiled. -/
def override (r : ResolvedLinter) (o : Config.Override) (include? : Option Regex) :
    ResolvedLinter where
  linter := r.linter
  enabled := (o.run?.orElse fun _ => o.enabled?).getD r.enabled
  executable := o.executable?.getD r.executable
  options := o.options?.getD r.options
  include? := include?.orElse fun _ => r.include?

end ResolvedLinter

structure Config where
  /-- The directory of the manifest. -/
  root : Path
  manifest : Path
  /-- The name of that directory. -/
  name : String
  includePattern : Regex
  exclude : List Glob
  /-- All linters in canonical order, enabled or not. -/
  linters : List ResolvedLinter
  /-- How many files are linted at a time, unless the machine is to decide. -/
  jobs? : Option Nat
  timeout? : Option Duration
  retry : RetryPolicy

namespace Config

def enabledLinters (config : Config) : List ResolvedLinter := config.linters.filter (·.enabled)

/-- Whether a path is to be linted at all. -/
def isInScope (config : Config) (path : String) : Bool :=
  config.includePattern.isMatch path && !config.exclude.any (·.isMatch path)

def compileInclude (pattern : String) : Except ConfigError Regex :=
  (Regex.compile pattern).mapError (.badInclude pattern)

/-- Every glob has to compile, and then all of them together. -/
def compileExclude (patterns : List String) : Except ConfigError (List Glob) := do
  let globs ← patterns.mapM fun pattern =>
    (Glob.compile pattern).mapError (.badExclude pattern)
  (Glob.buildSet globs).mapError (.badExcludeSet patterns)

/-- What a linter's table amounts to: its settings, with the include compiled. -/
def readOverride (linter : Linter) (v : Value) : Except ConfigError (Override × Option Regex) := do
  let o ← (Override.ofValue v).mapError (.badSection linter)
  match o.include? with
  | none => return (o, none)
  | some pattern => return (o, some (← compileInclude pattern))

def applyOverride (linter : Linter) (o : Override) (include? : Option Regex)
    (linters : List ResolvedLinter) : List ResolvedLinter :=
  linters.map fun r => if r.linter = linter then r.override o include? else r

/-- Applies the linters' tables in order and warns about keys that name no linter. -/
def applyOthers : Table → List ResolvedLinter →
    List Warning × Except ConfigError (List ResolvedLinter)
  | [], linters => ([], .ok linters)
  | (key, v) :: rest, linters =>
    match Linter.ofName? key with
    | none =>
      let (warnings, result) := applyOthers rest linters
      (.unknownKey key :: warnings, result)
    | some linter =>
      match readOverride linter v with
      | .error e => ([], .error e)
      | .ok (o, include?) => applyOthers rest (applyOverride linter o include? linters)

def readJobs (jobs? : Option Nat) : Except ConfigError (Option Nat) :=
  if jobs? = some 0 then .error .noJobs else .ok jobs?

def readTimeout (timeout? : Option Nat) : Except ConfigError (Option Duration) :=
  if timeout? = some 0 then .error .noTimeout else .ok (timeout?.map Duration.ofSeconds)

def readRetry (retrySection? : Option RetrySection) : RetryPolicy :=
  match retrySection? with
  | none => .default
  | some s =>
    let default := RetryPolicy.default
    ⟨(s.retries.map UInt32.ofNat).getD default.retries,
      (s.backoffMillis.map Duration.ofMillis).getD default.backoff,
      (s.maxBackoffMillis.map Duration.ofMillis).getD default.maxBackoff⟩

/-- The directory of a manifest, and `.` where the path has no directory. -/
def rootOf (manifest : Path) : Path := manifest.parent?.getD ⟨"."⟩

/-- The checks and merges after the two global patterns. -/
def merge (manifest : Path) (section' : Section) (includePattern : Regex) (exclude : List Glob) :
    List Warning × Except ConfigError Config :=
  let (warnings, linters) := applyOthers section'.others (catalog.map ResolvedLinter.ofSpec)
  let result := do
    let linters ← linters
    let jobs? ← readJobs section'.jobs?
    let timeout? ← readTimeout section'.timeout?
    let root := rootOf manifest
    return {
      root, manifest, name := root.fileName?.getD "", includePattern, exclude, linters, jobs?,
      timeout?, retry := readRetry section'.retrySection? }
  (warnings, result)

def ofSection (manifest : Path) (section' : Section) :
    List Warning × Except ConfigError Config :=
  match compileInclude (section'.include?.getD defaultInclude) with
  | .error e => ([], .error e)
  | .ok includePattern =>
    match compileExclude (section'.exclude?.getD []) with
    | .error e => ([], .error e)
    | .ok exclude => merge manifest section' includePattern exclude

/-- The section that a manifest's text describes. -/
def readSection (manifest : Path) (contents : String) : Except ConfigError Section :=
  match Toml.parse? contents with
  | none => .error (.notToml manifest)
  | some table => (Section.ofDocument table).mapError (.malformed manifest)

/-- The configuration that a manifest's text describes, with the warnings met on the way. -/
def parse (manifest : Path) (contents : String) : List Warning × Except ConfigError Config :=
  match readSection manifest contents with
  | .error e => ([], .error e)
  | .ok section' => ofSection manifest section'

end Config

end LintChain

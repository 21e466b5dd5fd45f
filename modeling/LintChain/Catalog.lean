import LintChain.Linter
import LintChain.Status

/-!
The catalog: how each linter is probed and invoked, and how its exit codes are read. Exit code 0
always passes; a code listed as a finding reports problems; a code listed as a change is believed
only when the file did change; anything else is a crash.
-/

namespace LintChain

/-- The non-zero exit codes that a tool is known to use. -/
structure ExitCodes where
  findings : List Int
  changes : List Int
  deriving DecidableEq

/-- Reads an exit code, `none` for death by a signal, given whether the file changed. -/
def ExitCodes.classify (codes : ExitCodes) (code? : Option Int) (changed : Bool) : Status :=
  match code? with
  | none => .toolError .signalled
  | some code =>
    if code = 0 then .pass
    else
      match codes.findings.contains code, codes.changes.contains code with
      | true, true => .toolError (.ambiguousExit code)
      | false, true => if changed then .pass else .toolError (.ambiguousExit code)
      | true, false => .findings
      | false, false => .toolError (.crashed code)

/-- A fixer may rewrite the files it is given, a checker only reports. -/
inductive Role
  | fixer
  | checker
  deriving DecidableEq, Repr

structure Spec where
  linter : Linter
  /-- The binary looked for on the search path. -/
  executable : String
  /-- The oldest supported version, if the probe's output tells a version. -/
  minimumVersion : Option String
  /-- Passed before the user's options and the file. -/
  args : List String
  /-- The cheap command that shows whether the tool works. -/
  probeArgs : List String
  enabledByDefault : Bool
  role : Role
  exitCodes : ExitCodes
  /-- Whether the tool fetches parts of itself on first use, so that a failed probe is retried. -/
  networkBootstrap : Bool
  deriving DecidableEq

namespace Spec

def isFixer (spec : Spec) : Bool := spec.role == .fixer

/-- Reads an exit code, refusing a checker that changed the file. -/
def classify (spec : Spec) (code? : Option Int) (changed : Bool) : Status :=
  let status := spec.exitCodes.classify code? changed
  if changed && !spec.isFixer && !status.isToolError then .toolError .unexpectedChange else status

end Spec

namespace Linter

def spec : Linter → Spec
  | isort => ⟨isort, "isort", some "5.0.0", ["--py", "37"], ["--version"], true, .fixer,
      ⟨[1], []⟩, false⟩
  | black => ⟨black, "black", some "22.1.0", ["-t", "py37"], ["--version"], true, .fixer,
      ⟨[1], []⟩, false⟩
  | pyupgrade => ⟨pyupgrade, "pyupgrade", none, ["--py37-plus"], ["--help"], true, .fixer,
      ⟨[], [1]⟩, false⟩
  | flake8 => ⟨flake8, "flake8", some "4.0.0", [], ["--version"], true, .checker,
      ⟨[1], []⟩, false⟩
  | prospector => ⟨prospector, "prospector", some "1.7.0", [], ["--version"], true, .checker,
      ⟨[1], []⟩, false⟩
  | pyright => ⟨pyright, "pyright", some "1.1.200", [], ["--version"], true, .checker,
      ⟨[1], []⟩, true⟩

@[simp] theorem linter_spec (l : Linter) : l.spec.linter = l := by cases l <;> rfl

end Linter

/-- The specs of all linters, in canonical order. -/
def catalog : List Spec := Linter.all.map Linter.spec

end LintChain

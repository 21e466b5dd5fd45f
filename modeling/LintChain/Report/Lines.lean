import LintChain.Report
import LintChain.Text.Split
import LintChain.Writer.Basic

/-!
The report of a run, line by line. What a tool printed is given line by line with the tool's name in
front, marked `¹` for its output and `²` for its error output.
-/

namespace LintChain.Report

def noFiles : String := "No files to lint."

def bootstrapFailed : String := "Linting bootstrap failed."

def bootstrapSucceeded : String := "Bootstrapping finished successfully."

def lintFailed : String := "Linting failed."

def lintSucceeded : String := "Linting ran successfully"

def progressLine (linter : Linter) : String := "Bootstrapping " ++ linter.name ++ " ..."

def progressLines (linters : List Linter) : List Line :=
  linters.map fun l => .ofText (progressLine l)

/-- The lines of both outputs of a tool. -/
def outputLines (indent : String) (linter : Linter) (stdout stderr : String) : List Line :=
  (Text.lines stdout).map (fun line => .ofText (indent ++ linter.name ++ "¹: " ++ line)) ++
    (Text.lines stderr).map (fun line => .ofText (indent ++ linter.name ++ "²: " ++ line))

def outcomeLine (linter : Linter) : Outcome → String
  | .available .. => linter.name ++ " is available"
  | .missing => linter.name ++ " is missing"
  | .broken (.exited code) => linter.name ++ " is broken and exited " ++ toString code
  | .broken fault => linter.name ++ " is broken: " ++ fault.message
  | .transientFailure attempts fault =>
    linter.name ++ " is broken: still failing after " ++ toString attempts.toNat ++
      " attempts (" ++ fault.message ++ ")"

def probedLines (probed : Probed) : List Line :=
  .ofText (outcomeLine probed.linter probed.outcome) ::
    outputLines "" probed.linter probed.stdout probed.stderr

/-- The unusable tools and the verdict on the bootstrap. -/
def failureLines (report : BootstrapReport) : List Line :=
  report.failures.flatMap probedLines ++ [.ofText bootstrapFailed]

/-- A line about a file. -/
def pathLine (before : String) (path : Path) : Line := ⟨[before, path.text]⟩

def fileListLines (paths : List Path) : List Line :=
  if paths.isEmpty then [.ofText noFiles]
  else .ofText "Linting the following files:" :: paths.map (pathLine "- ")

/-- What is said of a result, unless it is a pass. -/
def statusLine? (result : ToolResult) : Option String :=
  let name := result.linter.name
  match result.status with
  | .pass => none
  | .findings =>
    match result.exitCode with
    | some code => some (name ++ " found errors and exited " ++ toString code)
    | none => some (name ++ " found errors")
  | .toolError (.crashed code) => some (name ++ " is broken and exited " ++ toString code)
  | .toolError reason => some (name ++ " is broken: " ++ reason.message)

def changeLines (path : Path) (result : ToolResult) : List Line :=
  if result.changed then [pathLine ("  " ++ result.linter.name ++ " modified ") path] else []

def statusLines (result : ToolResult) : List Line :=
  match statusLine? result with
  | none => []
  | some line =>
    .ofText ("  " ++ line) :: outputLines "  " result.linter result.stdout result.stderr

def resultLines (path : Path) (result : ToolResult) : List Line :=
  changeLines path result ++ statusLines result

def fileLines (file : FileReport) : List Line :=
  pathLine "- " file.path :: file.results.flatMap (resultLines file.path)

def verdict (success : Bool) : String := if success then lintSucceeded else lintFailed

/-- The results of every file and the verdict on the run. -/
def runLines (report : RunReport) : List Line :=
  (if report.files.isEmpty then [] else [.ofText "Results:"]) ++ report.files.flatMap fileLines ++
    [.ofText (verdict report.isSuccess)]

end LintChain.Report

import LintChain.Linter
import LintChain.Path

/-!
What a run warns about without stopping.
-/

namespace LintChain

inductive Warning
  | unknownKey (key : String)
  | skippedArgument (argument : Path)
  | unreadableEntry (argument : Path) (reason : String)
  | unknownVersion (program : Path)
  | notBootstrapped (linter : Linter)
  | noDataDirectory
  deriving DecidableEq

def Warning.message : Warning → String
  | unknownKey key => "Ignoring unknown key '" ++ key ++ "' in [tool.lint]"
  | skippedArgument argument =>
    "Skipping '" ++ argument.text ++ "': no such file or directory"
  | unreadableEntry argument reason =>
    "Skipping unreadable entry under '" ++ argument.text ++ "': " ++ reason
  | unknownVersion program =>
    "Could not determine the version of '" ++ program.text ++ "'; assuming it is supported"
  | notBootstrapped linter => linter.name ++ " was not bootstrapped and will not run"
  | noDataDirectory =>
    "No data directory available; pyright will choose its own environment directory"

/-- The name of the part of the program that warns, by which messages are filtered. -/
def Warning.target : Warning → String
  | unknownKey _ => "polylint::config"
  | skippedArgument _ => "polylint::discovery"
  | unreadableEntry .. => "polylint::discovery"
  | unknownVersion _ => "polylint::bootstrap"
  | notBootstrapped _ => "polylint::engine"
  | noDataDirectory => "polylint::environ"

end LintChain

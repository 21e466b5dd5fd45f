import LintChain.Main
import LintChain.Proofs.Acceptance
import LintChain.Proofs.Agreement
import LintChain.Proofs.Attempts
import LintChain.Proofs.Backoff
import LintChain.Proofs.Coverage
import LintChain.Proofs.Delivery
import LintChain.Proofs.Disabled
import LintChain.Proofs.Dotted
import LintChain.Proofs.Echo
import LintChain.Proofs.Exhaustion
import LintChain.Proofs.ExitCode
import LintChain.Proofs.Gating
import LintChain.Proofs.Handing
import LintChain.Proofs.Hyphens
import LintChain.Proofs.Inert
import LintChain.Proofs.Judgement
import LintChain.Proofs.Leftmost
import LintChain.Proofs.Looks
import LintChain.Proofs.Merging
import LintChain.Proofs.Mirror
import LintChain.Proofs.Nearest
import LintChain.Proofs.NormalForm
import LintChain.Proofs.Numerals
import LintChain.Proofs.Permits
import LintChain.Proofs.Ranking
import LintChain.Proofs.Refusal
import LintChain.Proofs.Relint
import LintChain.Proofs.Schedule
import LintChain.Proofs.Selection
import LintChain.Proofs.Severity
import LintChain.Proofs.Tandem
import LintChain.Proofs.Trail
import LintChain.Proofs.Transcript
import LintChain.Proofs.Variables

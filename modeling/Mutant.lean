import Mutant.Cli.Program
import Mutant.Logging
import Mutant.Main
import Mutant.Tree.Listing
import Mutant.Proofs.Landing
import Mutant.Proofs.Tree
import Mutant.Proofs.WellFormed
import Mutant.Proofs.Visibility
import Mutant.Proofs.Candidates
import Mutant.Proofs.Usages
import Mutant.Proofs.Relocation
import Mutant.Proofs.NameReplacement
import Mutant.Proofs.OwnUsages
import Mutant.Proofs.BindingPreservation
import Mutant.Proofs.Runs
import Mutant.Proofs.GitCalls
import Mutant.Proofs.DoubleFlip
import Mutant.Proofs.Reports
import Mutant.Proofs.Transcripts
import Mutant.Proofs.DocumentOrder
import Mutant.Proofs.Reselection
import Mutant.Proofs.Exhaustion
import Mutant.Proofs.Batches
import Mutant.Proofs.Applicability
import Mutant.Proofs.Scoping
import Mutant.Proofs.TierAgreement
import Mutant.Proofs.SiblingScopes
import Mutant.Proofs.Conditionals
import Mutant.Proofs.Decoding
import Mutant.Proofs.Acceptance
import Mutant.Proofs.Readability
import Mutant.Proofs.Roles
import Mutant.Proofs.LineGroups
import Mutant.Proofs.CompilerLines
import Mutant.Proofs.Snippets
import Mutant.Proofs.Hints
import Mutant.Proofs.Eligibility
import Mutant.Proofs.Backups
import Mutant.Proofs.FirstContents
import Mutant.Proofs.StashPops
import Mutant.Proofs.RunPops
import Mutant.Proofs.Verdicts
import Mutant.Proofs.Highlights
import Mutant.Proofs.Windows
import Mutant.Proofs.PathOrder
import Mutant.Proofs.SelectionOrder
import Mutant.Proofs.ReportFiles

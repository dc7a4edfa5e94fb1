import Emend.Main
import Emend.Proofs.Aborts
import Emend.Proofs.Batches
import Emend.Proofs.Builds
import Emend.Proofs.CleanChecks
import Emend.Proofs.Commands
import Emend.Proofs.Commuting
import Emend.Proofs.Composition
import Emend.Proofs.Confinement
import Emend.Proofs.Directories
import Emend.Proofs.Discovery
import Emend.Proofs.Draining
import Emend.Proofs.DryRuns
import Emend.Proofs.Escapes
import Emend.Proofs.Forbidden
import Emend.Proofs.Grouping
import Emend.Proofs.Literals
import Emend.Proofs.Lookups
import Emend.Proofs.Marks
import Emend.Proofs.Matches
import Emend.Proofs.Overwriting
import Emend.Proofs.Persisting
import Emend.Proofs.Places
import Emend.Proofs.Plans
import Emend.Proofs.Replacing
import Emend.Proofs.Reports
import Emend.Proofs.Sessions
import Emend.Proofs.Tallies
import Emend.Proofs.Targets
import Emend.Proofs.Totals
import Emend.Proofs.Verdicts

import Rollout.Main
import Rollout.Package
import Rollout.Proofs.Cli.ExitStatus
import Rollout.Proofs.Cli.Stepwise
import Rollout.Proofs.Machine.Launch
import Rollout.Proofs.Sequence.Calls
import Rollout.Proofs.Session.History
import Rollout.Proofs.Text.Utf8
import Rollout.Proofs.Token.Places
import Rollout.Proofs.Stage.Noise
import Rollout.Proofs.Sequence.Leftovers
import Rollout.Proofs.Session.Outcomes
import Rollout.Proofs.Sequence.Records
import Rollout.Proofs.Plan.Overriding
import Rollout.Proofs.Sequence.Blame
import Rollout.Proofs.Cli.Extraction
import Rollout.Proofs.Cli.PlanShown
import Rollout.Proofs.Plan.Fields
import Rollout.Proofs.Environment.Seeding
import Rollout.Proofs.Cli.PlanFaults
import Rollout.Proofs.Plan.Forwarding
import Rollout.Proofs.Plan.Order
import Rollout.Proofs.Plan.Spelling
import Rollout.Proofs.Sequence.Reported
import Rollout.Proofs.Catalogue.Resolution
import Rollout.Proofs.Catalogue.Registration
import Rollout.Proofs.Session.Registrations
import Rollout.Proofs.Session.Refusals
import Rollout.Proofs.Stage.Recording
import Rollout.Proofs.Environment.Written
import Rollout.Proofs.Session.Marks
import Rollout.Proofs.Session.Directories
import Rollout.Proofs.Session.Environments
import Rollout.Proofs.Cli.Timeouts
import Rollout.Proofs.Session.RunIds

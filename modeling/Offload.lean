import Offload.Files.Tree
import Offload.Host.Description
import Offload.Main
import Offload.Proofs.CommandLine.Calls
import Offload.Proofs.Config.RoundTrip
import Offload.Proofs.Host.Bindings
import Offload.Proofs.Host.Builds
import Offload.Proofs.Host.Completion
import Offload.Proofs.Host.Eager
import Offload.Proofs.Host.FailedCalls
import Offload.Proofs.Host.Footprints
import Offload.Proofs.Host.OutOfOrder
import Offload.Proofs.Host.Progress
import Offload.Proofs.Host.Reordering
import Offload.Proofs.Host.Timeline
import Offload.Proofs.Host.WorkItems
import Offload.Proofs.Run.Capacity
import Offload.Proofs.Run.Plan
import Offload.Proofs.Run.Refusals
import Offload.Proofs.Run.Reports
import Offload.Proofs.Run.Settling
import Offload.Proofs.Run.Sizes
import Offload.Proofs.Run.Sums
import Offload.Proofs.Run.Verification
import Offload.Proofs.Source.Parameters
import Offload.Proofs.Sweep.Fatality
import Offload.Proofs.Sweep.Independence
import Offload.Proofs.Sweep.Interrupted
import Offload.Script

import FabricProvision.Main
import FabricProvision.Proofs.Pool.Failures
import FabricProvision.Proofs.Pool.Isolation
import FabricProvision.Proofs.Pool.Links
import FabricProvision.Proofs.Pool.Owners
import FabricProvision.Proofs.Provision.Batches
import FabricProvision.Proofs.Provision.Gateways
import FabricProvision.Proofs.Provision.Recovered
import FabricProvision.Proofs.Provision.RepeatSchedules
import FabricProvision.Proofs.Provision.Spared
import FabricProvision.Proofs.Device.Apart
import FabricProvision.Proofs.Provision.Blame
import FabricProvision.Proofs.Provision.Declared
import FabricProvision.Proofs.Provision.Reports
import FabricProvision.Proofs.Provision.Schedules
import FabricProvision.Proofs.Device.Faults
import FabricProvision.Proofs.Device.Invariants
import FabricProvision.Proofs.Provision.Resumed
import FabricProvision.Proofs.Provision.Updated
import FabricProvision.Proofs.Provision.Continued
import FabricProvision.Proofs.Device.Refused
import FabricProvision.Proofs.Device.Codec
import FabricProvision.Proofs.Device.Replays
import FabricProvision.Proofs.Provision.Plans
import FabricProvision.Proofs.Provision.Unforced
import FabricProvision.Proofs.Provision.Unique
import FabricProvision.Proofs.Provision.Pipeline
import FabricProvision.Proofs.Provision.Accounts
import FabricProvision.Proofs.Provision.Forced
import FabricProvision.Proofs.Provision.Sent
import FabricProvision.Proofs.Provision.Attributes
import FabricProvision.Proofs.Provision.UpdateRuns
import FabricProvision.Proofs.Provision.Changed
import FabricProvision.Proofs.Provision.Independent
import FabricProvision.Proofs.Device.Removal
import FabricProvision.Proofs.Provision.Swept
import FabricProvision.Proofs.Provision.Deleted
import FabricProvision.Proofs.Pool.Draws
import FabricProvision.Proofs.Pool.Returns
import FabricProvision.Proofs.File.Allocated
import FabricProvision.Proofs.Provision.FailFast
import FabricProvision.Proofs.Pool.Loaded
import FabricProvision.Proofs.File.Loopbacks
import FabricProvision.Proofs.File.Occupied
import FabricProvision.Proofs.File.Refilled
import FabricProvision.Proofs.File.Accepted
import FabricProvision.Proofs.File.RouterIds
import FabricProvision.Proofs.Provision.Unpaired
import FabricProvision.Proofs.Device.Agreement
import FabricProvision.Proofs.Device.Repeated
import FabricProvision.Proofs.Pool.Numbers
import FabricProvision.Proofs.Pool.Blocks
import FabricProvision.Proofs.Device.Histories

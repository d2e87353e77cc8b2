import FabricProvision.Desired.Request
import FabricProvision.Provision.Cluster
import FabricProvision.Provision.Switch
import Std.Data.ExtTreeMap

/-!
# Fabrics

A fabric is provisioned in stages: switches, management clusters, overlay gateways, saving.  Failures of the
first two stages end the run after the stage; the last two run to their ends and report together.

The switches of a management cluster share one overlay gateway, which is left to the cluster's principal.

A run is the one of the list-order schedule (`Dialogue.fanOut`), in which the targets of a stage have their turns one
after the other.
-/

namespace FabricProvision.FabricRequest

open Dialogue
open Std (ExtTreeMap)

variable (polling : Polling) (force : Bool) (r : FabricRequest)

/-! ### Management clusters -/

/-- Creates a cluster.  The cluster itself may ask for force. -/
def createCluster (c : ClusterSpec) : Dialogue (List Failure) :=
  c.reconcile polling .create (force || c.updates.contains .forceCreate)

/-- Deletes, then updates, then creates clusters; a batch with failures is the last. -/
def reconcileClusters (batches : ClusterBatches) : Dialogue (List Failure) := do
  let errors ← fanOut batches.delete fun c => c.reconcile polling .delete force
  if !errors.isEmpty then return errors
  let errors ← fanOut batches.update fun c => c.reconcile polling .update force
  if !errors.isEmpty then return errors
  fanOut batches.create (createCluster polling force)

/-! ### Principals -/

/-- Whether each host of a cluster is its principal. -/
abbrev Principals := ExtTreeMap String Bool

/-- Adds the members of a status; the later word on a host counts. -/
def addStatus (known : Principals) (status : ClusterStatus) : Principals :=
  known.insertMany (status.members.map fun m => (m.host, m.isPrincipal))

/-- Asks the first nodes of clusters for the principal.  A node that is known is not asked again, and one that
does not answer tells nothing. -/
def findPrincipals (known : Principals) : List ClusterSpec → Dialogue Principals
  | [] => return known
  | c :: rest => do
    match c.nodes.head? with
    | none => findPrincipals known rest
    | some first =>
      if known.contains first.host then findPrincipals known rest
      else
        match ← ClusterStatus.inquire first.host first.credentials with
        | .ok status => findPrincipals (addStatus known status) rest
        | .error _ => findPrincipals known rest

/-- The switches that get an overlay gateway: those with the overlay enabled and the role for it that are not
known to leave it to a principal. -/
def overlaySwitches (principals : Principals) : List SwitchSpec :=
  r.switches.filter fun s => s.isOverlay r.topology && s.overlay.enabled && principals[s.host]? != some false

/-! ### The whole fabric -/

/-- Configures all switches, the overlay gateways apart. -/
def configureSwitches : Dialogue (List Failure) := fanOut r.switches fun s => s.configure r.topology force

/-- Creates the overlay gateways and saves the configurations. -/
def finish (save : Bool) : Dialogue (List Failure) := do
  let principals ← findPrincipals ∅ (r.clusters.update ++ r.clusters.create)
  let errors ← fanOut (r.overlaySwitches principals) fun s => s.configureOverlayGateway force
  let unsaved ← if save then fanOut r.switches (·.persist) else pure []
  return errors ++ unsaved

/-- Brings a fabric to its desired state. -/
def configure (save : Bool) : Dialogue (List Failure) := do
  let errors ← r.configureSwitches force
  if !errors.isEmpty then return errors
  let errors ← reconcileClusters polling force r.clusters
  if !errors.isEmpty then return errors
  r.finish force save

end FabricProvision.FabricRequest

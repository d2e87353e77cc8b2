import FabricProvision.Provision.Fabric
import FabricProvision.Provision.Schedule

/-!
# Provisioning under every schedule

The work on fabrics, with a task of its own for each target: for each switch, for each cluster of a batch, of
which updates are the exception, for each node of a management cluster, and for each member of a data-plane
cluster while the session of the switch waits.  Everything on one session happens in order.  The schedules in
which the targets have their turns in list order are the dialogues of the same names in the modules that this one
is about.
-/

namespace FabricProvision

open Concurrent

/-! ### Switches -/

namespace DataPlaneSpec

/-- Removes the neighbors of a data-plane cluster. -/
def removeConcurrently (d : DataPlaneSpec) : Concurrent (List Failure) := fanOut d.nodes fun m => only m.remove

/-- Adds the neighbors of a data-plane cluster. -/
def addConcurrently (d : DataPlaneSpec) : Concurrent (List Failure) := fanOut d.nodes fun m => only m.add

end DataPlaneSpec

/-- Brings a switch to its desired state, the overlay gateway apart. -/
def SwitchSpec.configureConcurrently (t : Topology) (force : Bool) (s : SwitchSpec) : Concurrent (List Failure) :=
  session "Configure Switch Login" s.host s.credentials <| collect <|
    [only (s.provisionSystem t force), only s.provisionInterfaces, only (s.provisionBgp t),
      s.staleDataPlane.removeConcurrently] ++
      (if s.isOverlay t then [only (s.provisionEvpn force)] else []) ++ [s.dataPlane.addConcurrently]

/-! ### Management clusters -/

namespace ClusterSpec

variable (c : ClusterSpec) (polling : Polling)

/-- Clears all nodes. -/
def clearConcurrently : Concurrent Unit := do
  let _ ← fanOut c.nodes fun x => do
    only (c.clearOn x)
    return []

/-- Clears all nodes and polls until each of them is alone. -/
def clearAndPollConcurrently : Concurrent (List Failure) := do
  c.clearConcurrently
  fanOut c.nodes fun x => only (pollOn polling [x.host] x)

/-- Polls until all nodes report each other. -/
def pollMembersConcurrently : Concurrent (List Failure) := fanOut c.nodes fun x => only (pollOn polling c.hosts x)

/-- Creates the cluster. -/
def createConcurrently (force : Bool) : Concurrent (List Failure) := do
  if c.nodes.length > maxNodes then
    return [⟨"Configure Management Cluster", c.hosts.headD "", .precondition tooManyNodes⟩]
  let early ← if force then c.clearAndPollConcurrently polling else pure []
  let errors ← fanOut c.nodes fun x => only (c.createOn x)
  if errors.isEmpty then return early ++ (← c.pollMembersConcurrently polling) else return early ++ errors

/-- Updates the cluster and polls its nodes. -/
def updateConcurrently : Concurrent (List Failure) :=
  collect [fanOut c.nodes fun x => only (c.updateOn x), c.pollMembersConcurrently polling]

/-- Deletes the cluster. -/
def deleteConcurrently : Concurrent (List Failure) := fanOut c.nodes fun x => only (c.deleteOn x)

/-- Does to a cluster what is to happen to it. -/
def reconcileConcurrently (action : ClusterAction) (force : Bool) : Concurrent (List Failure) :=
  match action with
  | .create => c.createConcurrently polling force
  | .update => c.updateConcurrently polling
  | .delete => c.deleteConcurrently

end ClusterSpec

/-! ### Fabrics -/

namespace FabricRequest

variable (polling : Polling) (force : Bool) (r : FabricRequest)

/-- Creates a cluster.  The cluster itself may ask for force. -/
def createClusterConcurrently (c : ClusterSpec) : Concurrent (List Failure) :=
  c.reconcileConcurrently polling .create (force || c.updates.contains .forceCreate)

/-- Deletes, then updates, then creates clusters; a batch with failures is the last.  Clusters are updated one at a
time. -/
def reconcileClustersConcurrently (batches : ClusterBatches) : Concurrent (List Failure) := do
  let errors ← fanOut batches.delete fun c => c.reconcileConcurrently polling .delete force
  if !errors.isEmpty then return errors
  let errors ← collect (batches.update.map fun c => c.reconcileConcurrently polling .update force)
  if !errors.isEmpty then return errors
  fanOut batches.create (createClusterConcurrently polling force)

/-- Configures all switches, the overlay gateways apart. -/
def configureSwitchesConcurrently : Concurrent (List Failure) :=
  fanOut r.switches fun s => s.configureConcurrently r.topology force

/-- Creates the overlay gateways and saves the configurations. -/
def finishConcurrently (save : Bool) : Concurrent (List Failure) := do
  let principals ← only (findPrincipals ∅ (r.clusters.update ++ r.clusters.create))
  let errors ← fanOut (r.overlaySwitches principals) fun s => only (s.configureOverlayGateway force)
  let unsaved ← if save then fanOut r.switches fun s => only s.persist else pure []
  return errors ++ unsaved

/-- Brings a fabric to its desired state. -/
def configureConcurrently (save : Bool) : Concurrent (List Failure) := do
  let errors ← r.configureSwitchesConcurrently force
  if !errors.isEmpty then return errors
  let errors ← reconcileClustersConcurrently polling force r.clusters
  if !errors.isEmpty then return errors
  r.finishConcurrently force save

end FabricRequest

end FabricProvision

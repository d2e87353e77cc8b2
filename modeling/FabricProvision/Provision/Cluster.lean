import FabricProvision.Provision.ClusterSteps
import FabricProvision.Provision.Polling

/-!
# Management clusters

A management cluster is created, updated or deleted on all its nodes, each in a session of its own.  The nodes
do not depend on each other until the polling that follows: it waits until every node reports the nodes of the
cluster as its members.
-/

namespace FabricProvision

/-- What is to happen to a management cluster. -/
inductive ClusterAction where
  | create
  | update
  | delete
deriving DecidableEq, Repr, Inhabited

namespace ClusterSpec

open Dialogue

variable (c : ClusterSpec) (polling : Polling)

/-! ### Single nodes -/

/-- Creates the cluster on a node. -/
def createOn (n : ClusterNode) : Dialogue (List Failure) :=
  session "Configure Management Cluster" n.host n.credentials
    (NodeWork.sendAll n.host (c.createSteps n)).failures

/-- Updates the cluster on a node.  An update that names no attribute fails without a session. -/
def updateOn (n : ClusterNode) : Dialogue (List Failure) :=
  let operation := "Update management cluster properties"
  if c.updates.hasUpdate then session operation n.host n.credentials (c.update n).failures
  else return [⟨operation, n.host, .unsupportedUpdate c.updates⟩]

/-- Deletes the cluster from a node. -/
def deleteOn (n : ClusterNode) : Dialogue (List Failure) :=
  session "Delete Management Cluster" n.host n.credentials
    (NodeWork.sendAll n.host (c.deleteSteps n)).failures

/-- Clears a node; nothing is reported. -/
def clearOn (n : ClusterNode) : Dialogue Unit := do
  match ← connect n.host n.credentials with
  | .ok _ => c.clear n
  | .error _ => return

/-- Polls a node until it reports the intended members. -/
def pollOn (intended : List String) (n : ClusterNode) : Dialogue (List Failure) :=
  let operation := "Poll for management cluster status"
  session operation n.host n.credentials <|
    step operation n.host (pollMembership n.host intended polling.queries)

/-! ### Whole clusters -/

/-- Clears all nodes. -/
def clearAll : Dialogue Unit := c.nodes.forM c.clearOn

/-- Clears all nodes and polls until each of them is alone. -/
def clearAndPoll : Dialogue (List Failure) := do
  c.clearAll
  fanOut c.nodes fun n => pollOn polling [n.host] n

/-- Polls until all nodes report each other. -/
def pollMembers : Dialogue (List Failure) := fanOut c.nodes (pollOn polling c.hosts)

/-- Why a cluster with too many nodes is not created. -/
def tooManyNodes : String := s!"Management cluster is supported for a maximum of {maxNodes} nodes"

/-- Creates the cluster.  With `force` its nodes are cleared first.  The nodes are polled once the cluster is
created on all of them. -/
def create (force : Bool) : Dialogue (List Failure) := do
  if c.nodes.length > maxNodes then
    return [⟨"Configure Management Cluster", c.hosts.headD "", .precondition tooManyNodes⟩]
  let early ← if force then c.clearAndPoll polling else pure []
  let errors ← fanOut c.nodes c.createOn
  if errors.isEmpty then return early ++ (← c.pollMembers polling) else return early ++ errors

/-- Updates the cluster and polls its nodes. -/
def updateAll : Dialogue (List Failure) := collect [fanOut c.nodes c.updateOn, c.pollMembers polling]

/-- Deletes the cluster. -/
def deleteAll : Dialogue (List Failure) := fanOut c.nodes c.deleteOn

/-- Does to a cluster what is to happen to it. -/
def reconcile (action : ClusterAction) (force : Bool) : Dialogue (List Failure) :=
  match action with
  | .create => c.create polling force
  | .update => c.updateAll polling
  | .delete => c.deleteAll

end ClusterSpec

namespace ClusterStatus

open Dialogue

/-- The status that a host reports. -/
def inquire (host : String) (credentials : Credentials) : Dialogue (Except FailureCause ClusterStatus) := do
  match ← connect host credentials with
  | .error e => return .error (.login e)
  | .ok _ => return (← query host .getClusterStatus Response.toClusterStatus).mapError .step

end ClusterStatus

end FabricProvision

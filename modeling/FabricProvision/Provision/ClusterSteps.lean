import FabricProvision.Desired.Switch
import FabricProvision.Provision.Session

/-!
# Steps on the nodes of a management cluster

Within a node each step depends on the objects that earlier ones created, so the first failure ends the work on
the node.  Creation and deletion are lists of steps that the cluster and the node alone determine.  An update
first reads what the node holds, and clearing removes what the node holds and what it should hold.
-/

namespace FabricProvision

open Dialogue

/-- A step on a node. -/
inductive ClusterStep where
  /-- An operation, under the name of its step. -/
  | send (operation : String) (op : Operation)
  /-- The end of the work, because something it needs is not given. -/
  | refuse (operation reason : String)
deriving DecidableEq, Repr

/-- Work on a node that ends with its first failure. -/
abbrev NodeWork := ExceptT Failure Dialogue

namespace NodeWork

/-- Sends an operation as the step called `operation`. -/
def send (host operation : String) (op : Operation) : NodeWork Unit := ExceptT.mk do
  return (← perform host op).mapError fun cause => ⟨operation, host, cause⟩

/-- Sends a question as the step called `operation` and reads the answer. -/
def ask {α : Type} (host operation : String) (op : Operation)
    (read : Response → String → Except DeviceError α) : NodeWork α := ExceptT.mk do
  return (← query host op read).mapError fun e => ⟨operation, host, .step e⟩

/-- Does steps in order. -/
def sendAll (host : String) : List ClusterStep → NodeWork Unit
  | [] => return
  | .send operation op :: rest => do
    send host operation op
    sendAll host rest
  | .refuse operation reason :: _ => throw ⟨operation, host, .precondition reason⟩

/-- The failures of the work, which are at most one. -/
def failures (work : NodeWork Unit) : Dialogue (List Failure) := do
  match ← work.run with
  | .ok _ => return []
  | .error failure => return [failure]

end NodeWork

namespace ClusterSpec

variable (c : ClusterSpec) (n : ClusterNode)

/-- The kind of a peer interface as cluster objects name it. -/
def portChannelKind : String := "Port-channel"

/-- The destination of the static route to the partner. -/
def routeDestination : String := n.peerLoopbackIp ++ "/32"

/-! ### Creation -/

/-- The steps that create the peer port-channel with its members. -/
def peerInterfaceSteps : List ClusterStep :=
  let operation := "Configure Cluster Peer Interface"
  if n.peerInterface.kind = .portChannel then
    .send operation (.createPortChannel n.peerInterface.name n.peerInterface.speed "MCTPeerInterface"
      c.controlVlan) ::
      n.connectingPorts.map fun port =>
        .send operation (.addMember port n.peerInterface.name n.peerInterface.speed)
  else [.refuse operation "Cluster peer-interface needs to be a port-channel"]

/-- What ties the cluster object to its control VLAN and its partner. -/
def binding : ClusterBinding where
  name := c.name
  id := c.id
  peerKind := portChannelKind
  peerName := n.peerInterface.name
  peerIp := n.peerIp
  peerLoopbackIp := n.peerLoopbackIp
  controlVlan := c.controlVlan
  controlVe := c.controlVe
  sourceIp := SwitchSpec.withoutMask n.remotePeerIp

/-- The steps that create the cluster on a node. -/
def createSteps : List ClusterStep :=
  [.send "Configure Node Id" (.configureNodeId n.nodeId),
    .send "Create Cluster Control VLAN"
      (.createControlVlan c.controlVlan c.controlVe "MCTClusterControlVlan")] ++
  c.peerInterfaceSteps n ++
  [.send "Configure IRB on Cluster Control VLAN" (.configureVe c.controlVe n.remotePeerIp n.bfd),
    .send "Configure IP Route" (.configureRoute (routeDestination n) n.peerIp),
    .send "Configure Cluster" (.createCluster c.name c.id portChannelKind n.peerInterface.name n.peerIp),
    .send "Configure Cluster" (.configureCluster (c.binding n))]

/-! ### Deletion -/

/-- The steps that delete the cluster from a node. -/
def deleteSteps : List ClusterStep :=
  [.send "Delete Cluster" (.deleteCluster c.name c.id),
    .send "Delete Cluster Control VE" (.deleteControlVe c.controlVlan c.controlVe),
    .send "Delete Cluster Control VE" (.deleteVe c.controlVe),
    .send "Deconfigure IP Route" (.deconfigureRoute (routeDestination n) n.peerIp),
    .send "Delete Cluster Control VLAN" (.deleteControlVlan c.controlVlan)] ++
  n.connectingPorts.map (fun port =>
    .send "Delete Cluster Peer Interface" (.deleteMember port n.peerInterface.name)) ++
  [.send "Delete Cluster Peer Interface" (.deletePortChannel n.peerInterface.name)] ++
  if n.principalPriority = 0 then []
  else [.send "Unconfigure Principal Priority" (.unconfigurePrincipalPriority n.nodeId)]

/-! ### Update -/

/-- The name and the number of the cluster object to update: those of the object that is there, if it has a
name. -/
def updatedName (live : Option ClusterObject) : String × UInt32 :=
  match live with
  | some object => if object.name.isEmpty then (c.name, c.id) else (object.name, object.id)
  | none => (c.name, c.id)

/-- Moves the control VE of a node to its desired address. -/
def updateVe (live : Option ClusterObject) : NodeWork Unit := do
  let vlan := (live.bind (·.controlVlan)).getD c.controlVlan
  let bound ← NodeWork.ask n.host "MCT Cluster Get Control VLAN" (.getControlVlan vlan) Response.toControlVe
  let ve := bound.getD c.controlVe
  match ← NodeWork.ask n.host "MCT Cluster Get Control VE" (.getVe ve) Response.toAddress with
  | some address => NodeWork.send n.host "MCT Cluster Delete VE IP" (.unconfigureVeIp ve address)
  | none => pure ⟨⟩
  NodeWork.send n.host "MCT Cluster Set VE IP" (.configureVeIp ve n.remotePeerIp)

/-- The steps that move the cluster object to its desired partner. -/
def peerIpSteps (live : Option ClusterObject) : List ClusterStep :=
  let (name, id) := c.updatedName live
  let peerIp := (live.map (·.peerIp)).getD ""
  [.send "MCT Cluster Undeploy" (.undeployCluster name id)] ++
  (if peerIp.isEmpty then [] else
    [.send "MCT Cluster Delete Peer IP" (.unconfigurePeerIp name id peerIp)]) ++
  [.send "MCT Cluster Set Peer IP" (.configurePeerIp name id n.peerIp)]

/-- The steps that add the connecting ports to the peer port-channel. -/
def addMemberSteps : List ClusterStep :=
  n.connectingPorts.map fun port =>
    .send "MCT Cluster peer interface add member" (.addMember port n.peerInterface.name n.peerInterface.speed)

/-- The steps that take the connecting ports out of the peer port-channel. -/
def deleteMemberSteps : List ClusterStep :=
  n.connectingPorts.map fun port =>
    .send "MCT Cluster peer interface delete member" (.deleteMember port n.peerInterface.name)

/-- The steps that set the speed of the peer port-channel. -/
def speedSteps : List ClusterStep :=
  [.send "Configure Cluster Peer Interface Speed" (.configureSpeed n.peerInterface.name n.peerInterface.speed)]

/-- Updates the attributes of a node that the update names. -/
def update : NodeWork Unit := do
  let live ← NodeWork.ask n.host "MCT Cluster Get" .getCluster Response.toCluster
  if c.updates.contains .remotePeerIp then c.updateVe n live
  if c.updates.contains .peerIp then NodeWork.sendAll n.host (c.peerIpSteps n live)
  if c.updates.contains .memberAdd then NodeWork.sendAll n.host (addMemberSteps n)
  if c.updates.contains .memberDelete then NodeWork.sendAll n.host (deleteMemberSteps n)
  if c.updates.contains .speed then NodeWork.sendAll n.host (speedSteps n)

/-! ### Clearing -/

/-- Whether the peer interface of a cluster object is a VE. -/
def peerIsVe (live : ClusterObject) : Bool := live.peerKind.map Char.toLower == "ve"

/-- The deletions of what belongs to the control VLAN of the cluster object that is there. -/
def liveVlanDeletions (live : ClusterObject) : Dialogue (List Operation) := do
  match live.controlVlan with
  | none => return []
  | some vlan =>
    match ← query n.host (.getControlVlan vlan) Response.toControlVe with
    | .ok (some ve) => return [.deleteControlVe vlan ve, .deleteVe ve, .deleteControlVlan vlan]
    | _ => return [.deleteControlVlan vlan]

/-- The deletions of the cluster object that is there and of what belongs to it. -/
def liveDeletions (live : ClusterObject) : Dialogue (List Operation) := do
  let ofVlan ← liveVlanDeletions n live
  return (if live.name.isEmpty then [] else [.deleteCluster live.name live.id]) ++ ofVlan ++
    if peerIsVe live || live.peerName.isEmpty then [] else [.deletePortChannel live.peerName]

/-- The deletions of the desired objects. -/
def desiredDeletions : List Operation :=
  [.deleteCluster c.name c.id, .deleteControlVe c.controlVlan c.controlVe, .deleteVe c.controlVe,
    .deleteControlVlan c.controlVlan, .deletePortChannel n.peerInterface.name]

/-- Removes from a node the cluster that is there and then the desired one, whatever fails on the way. -/
def clear : Dialogue Unit := do
  let live ← query n.host .getCluster Response.toCluster
  let ofLive ← match live.toOption.join with
    | some object => liveDeletions n object
    | none => pure []
  (ofLive ++ c.desiredDeletions n).forM (attempt n.host)

end ClusterSpec

end FabricProvision

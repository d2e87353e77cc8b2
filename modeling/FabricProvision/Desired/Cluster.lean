import FabricProvision.Desired.Vocabulary

/-!
# Desired state of clusters

A management cluster joins two switches over a peer port-channel, with a control VLAN, a control VE and a
static route to the partner's loopback.  A data-plane cluster lists the switches whose L2 EVPN neighbors belong
together.  `UpdateBits` says which attributes of a management cluster an update touches.
-/

namespace FabricProvision

open Json (Encode Decode encode)

/-! ### Update bits -/

/-- The attributes an update touches, one bit each. -/
structure UpdateBits where
  bits : UInt64
deriving DecidableEq, Repr, Inhabited

namespace UpdateBits

/-- No bit. -/
def empty : UpdateBits := ⟨0⟩

/-- The partner's address of the cluster object. -/
def peerIp : UpdateBits := ⟨1⟩

/-- The address of the control VE. -/
def remotePeerIp : UpdateBits := ⟨2⟩

/-- Ports to add to the peer port-channel. -/
def memberAdd : UpdateBits := ⟨4⟩

/-- Ports to take out of the peer port-channel. -/
def memberDelete : UpdateBits := ⟨8⟩

/-- The speed of the peer port-channel. -/
def speed : UpdateBits := ⟨16⟩

/-- Creation from scratch, whatever is there; no attribute of its own. -/
def forceCreate : UpdateBits := ⟨0x40000000⟩

instance : OrOp UpdateBits := ⟨fun a b => ⟨a.bits ||| b.bits⟩⟩

/-- The bits that name an attribute. -/
def updates : UpdateBits := peerIp ||| remotePeerIp ||| memberAdd ||| memberDelete ||| speed

/-- Whether every bit of `other` is set. -/
def contains (a other : UpdateBits) : Bool := a.bits &&& other.bits == other.bits

/-- Whether a bit that names an attribute is set. -/
def hasUpdate (a : UpdateBits) : Bool := a.bits &&& updates.bits != 0

instance : Encode UpdateBits := ⟨fun a => encode a.bits⟩
instance : Decode UpdateBits := ⟨fun j => (Json.decode? j).map UpdateBits.mk⟩

end UpdateBits

/-! ### Management clusters -/

/-- The interface that links the two nodes of a cluster. -/
structure PeerInterface where
  kind : InterfaceKind
  name : String
  speed : String := ""
deriving DecidableEq, Repr, Inhabited

instance : Encode PeerInterface where
  encode p := .obj [("interface_type", encode p.kind), ("name", encode p.name), ("speed", encode p.speed)]

instance : Decode PeerInterface where
  decode? j := do
    let r ← Json.Record.ofJson? ["interface_type", "name", "speed"] j
    return { kind := ← r.get "interface_type", name := ← r.get "name", speed := ← r.getD "speed" "" }

/-- One node of a management cluster. -/
structure ClusterNode where
  /-- The management address, by which the switch is known. -/
  host : String
  credentials : Credentials := {}
  nodeId : UInt32
  principalPriority : UInt32 := 0
  /-- Address and mask length of this node's control VE. -/
  remotePeerIp : String
  /-- The partner's control VE address. -/
  peerIp : String
  /-- The partner's loopback address. -/
  peerLoopbackIp : String
  peerInterface : PeerInterface
  bfd : Bfd := {}
  /-- Ports bundled into the peer port-channel. -/
  connectingPorts : List String := []
deriving DecidableEq, Repr, Inhabited

instance : Encode ClusterNode where
  encode n := .obj [("mgmt_ip", encode n.host), ("credentials", encode n.credentials),
    ("node_id", encode n.nodeId), ("principal_priority", encode n.principalPriority),
    ("remote_peer_ip", encode n.remotePeerIp), ("peer_ip", encode n.peerIp),
    ("peer_loopback_ip", encode n.peerLoopbackIp), ("peer_interface", encode n.peerInterface),
    ("bfd", encode n.bfd), ("connecting_ports", encode n.connectingPorts)]

instance : Decode ClusterNode where
  decode? j := do
    let r ← Json.Record.ofJson? ["mgmt_ip", "credentials", "node_id", "principal_priority", "remote_peer_ip",
      "peer_ip", "peer_loopback_ip", "peer_interface", "bfd", "connecting_ports"] j
    return {
      host := ← r.get "mgmt_ip"
      credentials := ← r.getD "credentials" {}
      nodeId := ← r.get "node_id"
      principalPriority := ← r.getD "principal_priority" 0
      remotePeerIp := ← r.get "remote_peer_ip"
      peerIp := ← r.get "peer_ip"
      peerLoopbackIp := ← r.get "peer_loopback_ip"
      peerInterface := ← r.get "peer_interface"
      bfd := ← r.getD "bfd" {}
      connectingPorts := ← r.getD "connecting_ports" [] }

/-- A management cluster. -/
structure ClusterSpec where
  fabricName : String := ""
  name : String
  id : UInt32
  controlVlan : UInt16
  controlVe : UInt16
  nodes : List ClusterNode
  updates : UpdateBits := .empty
deriving DecidableEq, Repr, Inhabited

namespace ClusterSpec

/-- The number of nodes a management cluster may have. -/
def maxNodes : Nat := 2

/-- The management addresses of the nodes, in order. -/
def hosts (c : ClusterSpec) : List String := c.nodes.map (·.host)

instance : Encode ClusterSpec where
  encode c := .obj [("fabric_name", encode c.fabricName), ("name", encode c.name), ("id", encode c.id),
    ("control_vlan", encode c.controlVlan), ("control_ve", encode c.controlVe), ("members", encode c.nodes),
    ("operation_bitmap", encode c.updates)]

instance : Decode ClusterSpec where
  decode? j := do
    let r ← Json.Record.ofJson? ["fabric_name", "name", "id", "control_vlan", "control_ve", "members",
      "operation_bitmap"] j
    return {
      fabricName := ← r.getD "fabric_name" ""
      name := ← r.get "name"
      id := ← r.get "id"
      controlVlan := ← r.get "control_vlan"
      controlVe := ← r.get "control_ve"
      nodes := ← r.get "members"
      updates := ← r.getD "operation_bitmap" .empty }

end ClusterSpec

/-- Management clusters by what is to happen to them. -/
structure ClusterBatches where
  delete : List ClusterSpec := []
  update : List ClusterSpec := []
  create : List ClusterSpec := []
deriving DecidableEq, Repr, Inhabited

namespace ClusterBatches

/-- Whether there is no cluster at all. -/
def isEmpty (b : ClusterBatches) : Bool := b.delete.isEmpty && b.update.isEmpty && b.create.isEmpty

/-- All clusters: those to delete, then to update, then to create. -/
def all (b : ClusterBatches) : List ClusterSpec := b.delete ++ b.update ++ b.create

/-- Applies `f` to every cluster. -/
def map (f : ClusterSpec → ClusterSpec) (b : ClusterBatches) : ClusterBatches :=
  ⟨b.delete.map f, b.update.map f, b.create.map f⟩

instance : Encode ClusterBatches where
  encode b := .obj [("delete", encode b.delete), ("update", encode b.update), ("create", encode b.create)]

instance : Decode ClusterBatches where
  decode? j := do
    let r ← Json.Record.ofJson? ["delete", "update", "create"] j
    return { delete := ← r.getD "delete" [], update := ← r.getD "update" [], create := ← r.getD "create" [] }

end ClusterBatches

/-! ### Data-plane clusters -/

/-- One switch of a data-plane cluster, with its partner's addresses. -/
structure DataPlaneNode where
  host : String
  credentials : Credentials := {}
  peerIp : String
  peerLoopbackIp : String
  loopbackNumber : String
  peerAsn : UInt32
  bfdEnabled : Bool := false
deriving DecidableEq, Repr, Inhabited

instance : Encode DataPlaneNode where
  encode n := .obj [("mgmt_ip", encode n.host), ("credentials", encode n.credentials),
    ("peer_ip", encode n.peerIp), ("peer_loopback_ip", encode n.peerLoopbackIp),
    ("loopback_number", encode n.loopbackNumber), ("peer_asn", encode n.peerAsn),
    ("bfd_enabled", encode n.bfdEnabled)]

instance : Decode DataPlaneNode where
  decode? j := do
    let r ← Json.Record.ofJson? ["mgmt_ip", "credentials", "peer_ip", "peer_loopback_ip", "loopback_number",
      "peer_asn", "bfd_enabled"] j
    return {
      host := ← r.get "mgmt_ip"
      credentials := ← r.getD "credentials" {}
      peerIp := ← r.get "peer_ip"
      peerLoopbackIp := ← r.get "peer_loopback_ip"
      loopbackNumber := ← r.get "loopback_number"
      peerAsn := ← r.get "peer_asn"
      bfdEnabled := ← r.getD "bfd_enabled" false }

/-- A data-plane cluster. -/
structure DataPlaneSpec where
  fabricName : String := ""
  nodes : List DataPlaneNode := []
  updates : UpdateBits := .empty
deriving DecidableEq, Repr, Inhabited

instance : Encode DataPlaneSpec where
  encode d := .obj [("fabric_name", encode d.fabricName), ("members", encode d.nodes),
    ("operation_bitmap", encode d.updates)]

instance : Decode DataPlaneSpec where
  decode? j := do
    let r ← Json.Record.ofJson? ["fabric_name", "members", "operation_bitmap"] j
    return {
      fabricName := ← r.getD "fabric_name" ""
      nodes := ← r.getD "members" []
      updates := ← r.getD "operation_bitmap" .empty }

end FabricProvision

import FabricProvision.Desired.Cluster

/-!
# Objects on switches

The larger parameters of operations, and the cluster objects that switches report.
-/

namespace FabricProvision

open Json (Encode Decode encode)

/-! ### BGP -/

/-- Which connected routes the BGP process redistributes. -/
inductive Redistribution where
  | off
  | connected
  | connectedWithRouteMap
deriving DecidableEq, Repr, Inhabited

namespace Redistribution

/-- The name in JSON. -/
def name : Redistribution → String
  | off => "Off"
  | connected => "Connected"
  | connectedWithRouteMap => "ConnectedWithRouteMap"

instance : Encode Redistribution := ⟨fun r => .str r.name⟩
instance : Decode Redistribution := ⟨Json.ofName? name [off, connected, connectedWithRouteMap]⟩

end Redistribution

/-- The BGP process of a switch in a Clos fabric. -/
structure ClosBgp where
  localAsn : UInt32
  peerGroup : String
  peerGroupDescription : String
  network : String
  maxPaths : UInt32
  overlayGateway : Bool
  allowasIn : UInt32
  retainRouteTargets : Bool
  nextHopUnchanged : Bool
  bfd : Bfd
  redistribution : Redistribution
deriving DecidableEq, Repr, Inhabited

instance : Encode ClosBgp where
  encode b := .obj [("local_asn", encode b.localAsn), ("peer_group", encode b.peerGroup),
    ("peer_group_description", encode b.peerGroupDescription), ("network", encode b.network),
    ("max_paths", encode b.maxPaths), ("overlay_gateway", encode b.overlayGateway),
    ("allowas_in", encode b.allowasIn), ("retain_route_target_all", encode b.retainRouteTargets),
    ("next_hop_unchanged", encode b.nextHopUnchanged), ("bfd", encode b.bfd),
    ("redistribute", encode b.redistribution)]

instance : Decode ClosBgp where
  decode? j := do
    let r ← Json.Record.ofJson? ["local_asn", "peer_group", "peer_group_description", "network", "max_paths",
      "overlay_gateway", "allowas_in", "retain_route_target_all", "next_hop_unchanged", "bfd",
      "redistribute"] j
    return {
      localAsn := ← r.get "local_asn"
      peerGroup := ← r.get "peer_group"
      peerGroupDescription := ← r.get "peer_group_description"
      network := ← r.get "network"
      maxPaths := ← r.get "max_paths"
      overlayGateway := ← r.get "overlay_gateway"
      allowasIn := ← r.get "allowas_in"
      retainRouteTargets := ← r.get "retain_route_target_all"
      nextHopUnchanged := ← r.get "next_hop_unchanged"
      bfd := ← r.get "bfd"
      redistribution := ← r.get "redistribute" }

/-- The BGP process of a switch in a fabric of racks. -/
structure NonClosBgp where
  localAsn : UInt32
  networks : List String
  bfd : Bfd
  peerGroup : String
  peerGroupDescription : String
  evpnPeerGroup : String
  evpnPeerGroupDescription : String
  multihop : UInt32
  maxPaths : UInt32
  encapsulation : String
  nextHopUnchanged : Bool
  retainRouteTargets : Bool
deriving DecidableEq, Repr, Inhabited

instance : Encode NonClosBgp where
  encode b := .obj [("local_asn", encode b.localAsn), ("networks", encode b.networks), ("bfd", encode b.bfd),
    ("peer_group", encode b.peerGroup), ("peer_group_description", encode b.peerGroupDescription),
    ("evpn_peer_group", encode b.evpnPeerGroup),
    ("evpn_peer_group_description", encode b.evpnPeerGroupDescription), ("multihop", encode b.multihop),
    ("max_paths", encode b.maxPaths), ("encapsulation", encode b.encapsulation),
    ("next_hop_unchanged", encode b.nextHopUnchanged),
    ("retain_route_target_all", encode b.retainRouteTargets)]

instance : Decode NonClosBgp where
  decode? j := do
    let r ← Json.Record.ofJson? ["local_asn", "networks", "bfd", "peer_group", "peer_group_description",
      "evpn_peer_group", "evpn_peer_group_description", "multihop", "max_paths", "encapsulation",
      "next_hop_unchanged", "retain_route_target_all"] j
    return {
      localAsn := ← r.get "local_asn"
      networks := ← r.get "networks"
      bfd := ← r.get "bfd"
      peerGroup := ← r.get "peer_group"
      peerGroupDescription := ← r.get "peer_group_description"
      evpnPeerGroup := ← r.get "evpn_peer_group"
      evpnPeerGroupDescription := ← r.get "evpn_peer_group_description"
      multihop := ← r.get "multihop"
      maxPaths := ← r.get "max_paths"
      encapsulation := ← r.get "encapsulation"
      nextHopUnchanged := ← r.get "next_hop_unchanged"
      retainRouteTargets := ← r.get "retain_route_target_all" }

/-- A BGP neighbor on a switch. -/
structure BgpNeighbor where
  address : String
  remoteAs : UInt32
  peerGroup : Option String
  multihop : UInt32
  unnumbered : Bool
  isLeaf : Bool
  nextHopSelf : Bool
  bfd : Bool
deriving DecidableEq, Repr, Inhabited

instance : Encode BgpNeighbor where
  encode n := .obj [("address", encode n.address), ("remote_as", encode n.remoteAs),
    ("peer_group", encode n.peerGroup), ("multihop", encode n.multihop), ("unnumbered", encode n.unnumbered),
    ("is_leaf", encode n.isLeaf), ("next_hop_self", encode n.nextHopSelf), ("bfd", encode n.bfd)]

instance : Decode BgpNeighbor where
  decode? j := do
    let r ← Json.Record.ofJson? ["address", "remote_as", "peer_group", "multihop", "unnumbered", "is_leaf",
      "next_hop_self", "bfd"] j
    return {
      address := ← r.get "address"
      remoteAs := ← r.get "remote_as"
      peerGroup := ← r.get? "peer_group"
      multihop := ← r.get "multihop"
      unnumbered := ← r.get "unnumbered"
      isLeaf := ← r.get "is_leaf"
      nextHopSelf := ← r.get "next_hop_self"
      bfd := ← r.get "bfd" }

/-! ### Management clusters -/

/-- What ties a cluster object to its control VLAN and its partner. -/
structure ClusterBinding where
  name : String
  id : UInt32
  peerKind : String
  peerName : String
  peerIp : String
  peerLoopbackIp : String
  controlVlan : UInt16
  controlVe : UInt16
  sourceIp : String
deriving DecidableEq, Repr, Inhabited

instance : Encode ClusterBinding where
  encode b := .obj [("name", encode b.name), ("id", encode b.id), ("peer_interface_type", encode b.peerKind),
    ("peer_interface_name", encode b.peerName), ("peer_ip", encode b.peerIp),
    ("peer_loopback_ip", encode b.peerLoopbackIp), ("control_vlan", encode b.controlVlan),
    ("control_ve", encode b.controlVe), ("source_ip", encode b.sourceIp)]

instance : Decode ClusterBinding where
  decode? j := do
    let r ← Json.Record.ofJson? ["name", "id", "peer_interface_type", "peer_interface_name", "peer_ip",
      "peer_loopback_ip", "control_vlan", "control_ve", "source_ip"] j
    return {
      name := ← r.get "name"
      id := ← r.get "id"
      peerKind := ← r.get "peer_interface_type"
      peerName := ← r.get "peer_interface_name"
      peerIp := ← r.get "peer_ip"
      peerLoopbackIp := ← r.get "peer_loopback_ip"
      controlVlan := ← r.get "control_vlan"
      controlVe := ← r.get "control_ve"
      sourceIp := ← r.get "source_ip" }

/-- A cluster object as a switch reports it. -/
structure ClusterObject where
  name : String
  id : UInt32
  controlVlan : Option UInt16
  peerKind : String
  peerName : String
  peerIp : String
deriving DecidableEq, Repr, Inhabited

namespace ClusterObject

/-- Whether this is the cluster with that name and number. -/
def isNamed (c : ClusterObject) (name : String) (id : UInt32) : Bool := c.name == name && c.id == id

instance : Encode ClusterObject where
  encode c := .obj [("name", encode c.name), ("id", encode c.id), ("control_vlan", encode c.controlVlan),
    ("peer_interface_type", encode c.peerKind), ("peer_interface_name", encode c.peerName),
    ("peer_ip", encode c.peerIp)]

instance : Decode ClusterObject where
  decode? j := do
    let r ← Json.Record.ofJson? ["name", "id", "control_vlan", "peer_interface_type", "peer_interface_name",
      "peer_ip"] j
    return {
      name := ← r.get "name"
      id := ← r.get "id"
      controlVlan := ← r.get? "control_vlan"
      peerKind := ← r.get "peer_interface_type"
      peerName := ← r.get "peer_interface_name"
      peerIp := ← r.get "peer_ip" }

end ClusterObject

/-- One member in the status of a management cluster. -/
structure ClusterMember where
  host : String
  isPrincipal : Bool
deriving DecidableEq, Repr, Inhabited

instance : Encode ClusterMember where
  encode m := .obj [("mgmt_ip", encode m.host), ("is_principal", encode m.isPrincipal)]

instance : Decode ClusterMember where
  decode? j := do
    let r ← Json.Record.ofJson? ["mgmt_ip", "is_principal"] j
    return { host := ← r.get "mgmt_ip", isPrincipal := ← r.get "is_principal" }

/-- The management cluster as one of its members sees it. -/
structure ClusterStatus where
  members : List ClusterMember := []
deriving DecidableEq, Repr, Inhabited

namespace ClusterStatus

/-- The hosts of the members. -/
def hosts (s : ClusterStatus) : List String := s.members.map (·.host)

/-- The host of the first member that is principal. -/
def principal? (s : ClusterStatus) : Option String := (s.members.find? (·.isPrincipal)).map (·.host)

/-- Whether there are as many members as intended and each of them is intended. -/
def fits (s : ClusterStatus) (intended : List String) : Bool :=
  s.members.length == intended.length && s.members.all fun m => intended.contains m.host

instance : Encode ClusterStatus where
  encode s := .obj [("members", encode s.members)]

instance : Decode ClusterStatus where
  decode? j := do
    let r ← Json.Record.ofJson? ["members"] j
    return { members := ← r.get "members" }

end ClusterStatus

end FabricProvision

import FabricProvision.Desired.Cluster
import FabricProvision.Text.Trim

/-!
# Desired state of a switch

Interfaces and BGP neighbors carry a `Change` each; the settings of the BGP process, the EVPN timers and the
overlay are stated as a whole.
-/

namespace FabricProvision

open Json (Encode Decode encode)

/-- The interface that lends its address to an unnumbered one. -/
structure Donor where
  kind : InterfaceKind
  name : String
deriving DecidableEq, Repr, Inhabited

instance : Encode Donor where
  encode d := .obj [("interface_type", encode d.kind), ("name", encode d.name)]

instance : Decode Donor where
  decode? j := do
    let r ← Json.Record.ofJson? ["interface_type", "name"] j
    return { kind := ← r.get "interface_type", name := ← r.get "name" }

/-- An interface of a switch. -/
structure InterfaceSpec where
  name : String
  kind : InterfaceKind
  /-- Address and mask length; empty for an unnumbered interface. -/
  ip : String := ""
  donor : Option Donor := none
  description : String := ""
  change : Change := .keep
deriving DecidableEq, Repr, Inhabited

instance : Encode InterfaceSpec where
  encode i := .obj <| [("name", encode i.name), ("interface_type", encode i.kind), ("ip", encode i.ip)] ++
    (match i.donor with | some d => [("donor", encode d)] | none => []) ++
    [("description", encode i.description), ("config_type", encode i.change)]

instance : Decode InterfaceSpec where
  decode? j := do
    let r ← Json.Record.ofJson? ["name", "interface_type", "ip", "donor", "description", "config_type"] j
    return {
      name := ← r.get "name"
      kind := ← r.get "interface_type"
      ip := ← r.getD "ip" ""
      donor := ← r.getD "donor" none
      description := ← r.getD "description" ""
      change := ← r.getD "config_type" .keep }

/-- A BGP neighbor of a switch. -/
structure NeighborSpec where
  address : String
  remoteAs : UInt32
  kind : PeerKind := .fabric
  change : Change := .keep
deriving DecidableEq, Repr, Inhabited

instance : Encode NeighborSpec where
  encode n := .obj [("address", encode n.address), ("remote_as", encode n.remoteAs),
    ("neighbor_type", encode n.kind), ("config_type", encode n.change)]

instance : Decode NeighborSpec where
  decode? j := do
    let r ← Json.Record.ofJson? ["address", "remote_as", "neighbor_type", "config_type"] j
    return {
      address := ← r.get "address"
      remoteAs := ← r.get "remote_as"
      kind := ← r.getD "neighbor_type" .fabric
      change := ← r.getD "config_type" .keep }

/-- The settings of the BGP process. -/
structure BgpSpec where
  /-- The switch's own number; zero where it is still to be drawn. -/
  localAsn : UInt32 := 0
  peerGroup : String := "spine-group"
  peerGroupDescription : String := "Spine Peer Group"
  evpnPeerGroup : String := "overlay-ebgp-group"
  evpnPeerGroupDescription : String := "Overlay EBGP Peer Group"
  /-- The network the process advertises. -/
  network : String := ""
  /-- A further network, advertised outside Clos fabrics. -/
  nonClosNetwork : String := ""
  maxPaths : UInt32 := 8
  allowasIn : UInt32 := 0
  multihop : UInt32 := 2
  linkAddressing : LinkAddressing := .numbered
deriving DecidableEq, Repr, Inhabited

instance : Encode BgpSpec where
  encode b := .obj [("local_asn", encode b.localAsn), ("peer_group", encode b.peerGroup),
    ("peer_group_description", encode b.peerGroupDescription), ("evpn_peer_group", encode b.evpnPeerGroup),
    ("evpn_peer_group_description", encode b.evpnPeerGroupDescription), ("network", encode b.network),
    ("non_clos_network", encode b.nonClosNetwork), ("max_paths", encode b.maxPaths),
    ("allowas_in", encode b.allowasIn), ("multihop", encode b.multihop),
    ("p2p_ip_type", encode b.linkAddressing)]

instance : Decode BgpSpec where
  decode? j := do
    let r ← Json.Record.ofJson? ["local_asn", "peer_group", "peer_group_description", "evpn_peer_group",
      "evpn_peer_group_description", "network", "non_clos_network", "max_paths", "allowas_in", "multihop",
      "p2p_ip_type"] j
    return {
      localAsn := ← r.getD "local_asn" 0
      peerGroup := ← r.getD "peer_group" "spine-group"
      peerGroupDescription := ← r.getD "peer_group_description" "Spine Peer Group"
      evpnPeerGroup := ← r.getD "evpn_peer_group" "overlay-ebgp-group"
      evpnPeerGroupDescription := ← r.getD "evpn_peer_group_description" "Overlay EBGP Peer Group"
      network := ← r.getD "network" ""
      nonClosNetwork := ← r.getD "non_clos_network" ""
      maxPaths := ← r.getD "max_paths" 8
      allowasIn := ← r.getD "allowas_in" 0
      multihop := ← r.getD "multihop" 2
      linkAddressing := ← r.getD "p2p_ip_type" .numbered }

/-- The overlay gateway and the anycast gateway of a switch. -/
structure OverlaySpec where
  enabled : Bool := false
  vtepLoopback : String := ""
  vlanVniAutoMap : Bool := false
  anycastMac : String := ""
  ipv6AnycastMac : String := ""
deriving DecidableEq, Repr, Inhabited

instance : Encode OverlaySpec where
  encode o := .obj [("enabled", encode o.enabled), ("vtep_loopback", encode o.vtepLoopback),
    ("vlan_vni_auto_map", encode o.vlanVniAutoMap), ("anycast_mac", encode o.anycastMac),
    ("ipv6_anycast_mac", encode o.ipv6AnycastMac)]

instance : Decode OverlaySpec where
  decode? j := do
    let r ← Json.Record.ofJson? ["enabled", "vtep_loopback", "vlan_vni_auto_map", "anycast_mac",
      "ipv6_anycast_mac"] j
    return {
      enabled := ← r.getD "enabled" false
      vtepLoopback := ← r.getD "vtep_loopback" ""
      vlanVniAutoMap := ← r.getD "vlan_vni_auto_map" false
      anycastMac := ← r.getD "anycast_mac" ""
      ipv6AnycastMac := ← r.getD "ipv6_anycast_mac" "" }

/-- The desired state of one switch. -/
structure SwitchSpec where
  /-- The management address, by which the switch is known. -/
  host : String
  credentials : Credentials := {}
  role : Role
  /-- The fabric's name, which also names the EVPN instance and the overlay gateway. -/
  fabric : String := ""
  mtu : UInt32 := 9216
  ipMtu : UInt32 := 9100
  /-- The name of the loopback that gives the router-id. -/
  loopbackPort : String := ""
  interfaces : List InterfaceSpec := []
  bgp : BgpSpec := {}
  bfd : Bfd := {}
  neighbors : List NeighborSpec := []
  evpn : EvpnTimers := {}
  overlay : OverlaySpec := {}
  /-- Data-plane neighbors to remove. -/
  staleDataPlane : DataPlaneSpec := {}
  /-- Data-plane neighbors to configure. -/
  dataPlane : DataPlaneSpec := {}
deriving DecidableEq, Repr, Inhabited

namespace SwitchSpec

/-- The part of a text before its first slash. -/
def withoutMask (ip : String) : String :=
  String.ofList (ip.toList.takeWhile (· != '/'))

/-- The loopbacks that may give the router-id. -/
def routerLoopbacks (s : SwitchSpec) : List InterfaceSpec :=
  s.interfaces.filter fun i => i.kind == .loopback && i.name == s.loopbackPort

/-- The router-id: the address of the last loopback with the chosen name, if it has one. -/
def routerId? (s : SwitchSpec) : Option String :=
  match s.routerLoopbacks.getLast? with
  | some i => if (withoutMask i.ip).isEmpty then none else some (withoutMask i.ip)
  | none => none

instance : Encode SwitchSpec where
  encode s := .obj [("host", encode s.host), ("credentials", encode s.credentials), ("role", encode s.role),
    ("fabric", encode s.fabric), ("mtu", encode s.mtu), ("ip_mtu", encode s.ipMtu),
    ("loopback_port_number", encode s.loopbackPort), ("interfaces", encode s.interfaces),
    ("bgp", encode s.bgp), ("bfd", encode s.bfd), ("neighbors", encode s.neighbors), ("evpn", encode s.evpn),
    ("overlay", encode s.overlay), ("unconfigure_mct_neighbors", encode s.staleDataPlane),
    ("configure_mct_neighbors", encode s.dataPlane)]

instance : Decode SwitchSpec where
  decode? j := do
    let r ← Json.Record.ofJson? ["host", "credentials", "role", "fabric", "mtu", "ip_mtu",
      "loopback_port_number", "interfaces", "bgp", "bfd", "neighbors", "evpn", "overlay",
      "unconfigure_mct_neighbors", "configure_mct_neighbors"] j
    return {
      host := ← r.get "host"
      credentials := ← r.getD "credentials" {}
      role := ← r.get "role"
      fabric := ← r.getD "fabric" ""
      mtu := ← r.getD "mtu" 9216
      ipMtu := ← r.getD "ip_mtu" 9100
      loopbackPort := ← r.getD "loopback_port_number" ""
      interfaces := ← r.getD "interfaces" []
      bgp := ← r.getD "bgp" {}
      bfd := ← r.getD "bfd" {}
      neighbors := ← r.getD "neighbors" []
      evpn := ← r.getD "evpn" {}
      overlay := ← r.getD "overlay" {}
      staleDataPlane := ← r.getD "unconfigure_mct_neighbors" {}
      dataPlane := ← r.getD "configure_mct_neighbors" {} }

end SwitchSpec

end FabricProvision

import FabricProvision.Device.Response
import FabricProvision.KeyOrder
import Std.Data.ExtTreeSet

/-!
# Configurations

What a switch is configured with: the objects that operations create, change and delete.  Names of interfaces
put their kind before their name, as in `ethernet 0/1`.
-/

namespace FabricProvision

open Std (ExtTreeMap ExtTreeSet)
open Json (Encode encode)

/-- What is recorded of an interface. -/
structure InterfaceRecord where
  address : Option String := none
  /-- The interface that lends its address. -/
  donor : Option String := none
deriving DecidableEq, Repr, Inhabited

/-- A port-channel and the ports it bundles. -/
structure PortChannel where
  speed : String := ""
  members : ExtTreeSet String := ∅

instance : Inhabited PortChannel := ⟨{}⟩

/-- A static route. -/
structure Route where
  destination : String
  nextHop : String
deriving DecidableEq, Repr, Inhabited

namespace Route

instance : Ord Route := ⟨compareLex (compareOn destination) (compareOn nextHop)⟩
instance : Std.TransOrd Route :=
  inferInstanceAs (Std.TransCmp (compareLex (compareOn destination) (compareOn nextHop)))
instance : Std.LawfulEqOrd Route :=
  lawfulEqCmp_compareLex fun ⟨_, _⟩ ⟨_, _⟩ h h' => by cases h; cases h'; rfl

end Route

/-- The configuration of a switch. -/
structure Configuration where
  l2Mtu : Option UInt32 := none
  ipMtu : Option UInt32 := none
  anycastMac : Option String := none
  interfaces : ExtTreeMap String InterfaceRecord := ∅
  routeMap : Bool := false
  localAsn : Option UInt32 := none
  bgpNeighbors : ExtTreeSet String := ∅
  routerId : Option String := none
  l2EvpnNeighbors : ExtTreeSet String := ∅
  encapsulation : String := "vxlan"
  macAndArp : Option EvpnTimers := none
  evpnInstance : Option String := none
  overlayGateway : Option String := none
  /-- Whether the configuration was made to survive a restart. -/
  saved : Bool := false
  nodeId : Option UInt32 := none
  /-- The control VLANs and the VE bound to each. -/
  controlVlans : ExtTreeMap UInt16 (Option UInt16) := ∅
  /-- The VEs and their addresses. -/
  ves : ExtTreeMap UInt16 (Option String) := ∅
  portChannels : ExtTreeMap String PortChannel := ∅
  routes : ExtTreeSet Route := ∅
  cluster : Option ClusterObject := none
  /-- Whether the cluster object is in operation. -/
  deployed : Bool := false

namespace Configuration

instance : Inhabited Configuration := ⟨{}⟩

/-- The name of an interface of a kind. -/
def interfaceName (kind name : String) : String := s!"{kind} {name}"

/-- The cluster object, if it has that name and number. -/
def clusterNamed? (c : Configuration) (name : String) (id : UInt32) : Option ClusterObject :=
  c.cluster.filter fun object => object.isNamed name id

/-- The configuration with a record for an interface. -/
def setInterface (c : Configuration) (key : String) (r : InterfaceRecord) : Configuration :=
  { c with interfaces := c.interfaces.insert key r }

/-! ### As JSON -/

/-- A map as an object. -/
def mapJson {κ α : Type} [Ord κ] [Std.TransOrd κ] (key : κ → String) (value : α → Json)
    (m : ExtTreeMap κ α) : Json :=
  .obj (m.toList.map fun (k, a) => (key k, value a))

instance : Encode InterfaceRecord where
  encode r := .obj [("address", encode r.address), ("donor", encode r.donor)]

instance : Encode PortChannel where
  encode p := .obj [("speed", encode p.speed), ("members", encode p.members.toList)]

instance : Encode Route where
  encode r := .arr [encode r.destination, encode r.nextHop]

instance : Encode Configuration where
  encode c := .obj [("l2_mtu", encode c.l2Mtu), ("ip_mtu", encode c.ipMtu),
    ("anycast_mac", encode c.anycastMac), ("interfaces", mapJson id encode c.interfaces),
    ("route_map", encode c.routeMap), ("local_asn", encode c.localAsn),
    ("bgp_neighbors", encode c.bgpNeighbors.toList), ("router_id", encode c.routerId),
    ("l2evpn_neighbors", encode c.l2EvpnNeighbors.toList), ("encapsulation", encode c.encapsulation),
    ("mac_and_arp", encode c.macAndArp), ("evpn_instance", encode c.evpnInstance),
    ("overlay_gateway", encode c.overlayGateway), ("saved", encode c.saved), ("node_id", encode c.nodeId),
    ("control_vlans", mapJson (fun vlan => toString vlan.toNat) encode c.controlVlans),
    ("ves", mapJson (fun ve => toString ve.toNat) encode c.ves),
    ("port_channels", mapJson id encode c.portChannels), ("routes", encode c.routes.toList),
    ("cluster", encode c.cluster), ("cluster_deployed", encode c.deployed)]

end Configuration

end FabricProvision

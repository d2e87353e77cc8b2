import FabricProvision.Device.Apply
import FabricProvision.Device.Dialogue

/-!
# A network of switches in memory

A network is a map from addresses to devices.  A device is the configuration of a switch, the journal of the
operations it received, and the faults it was told to show.  Operations reach a device one at a time; each is
written to the journal before it is carried out.

The devices that have deployed the same cluster object are the members of that management cluster, and the
first of them is its principal.
-/

namespace FabricProvision

open Std (ExtTreeMap ExtTreeSet)
open Json (Encode Decode encode)

/-- A switch in memory. -/
structure Device where
  configuration : Configuration := {}
  /-- The operations received, in order. -/
  journal : List Operation := []
  refusesLogin : Bool := false
  /-- The names of the operations that are refused. -/
  failing : ExtTreeSet String := ∅
  /-- The status that is reported instead of the real one. -/
  statusOverride : Option ClusterStatus := none

namespace Device

instance : Inhabited Device := ⟨{}⟩

/-- Writes an operation to the journal. -/
def record (d : Device) (op : Operation) : Device := { d with journal := d.journal ++ [op] }

/-- Receives an operation; `status` is the answer to a question for the cluster's status. -/
def receive (d : Device) (status : ClusterStatus) (op : Operation) : Except Rejection Response × Device :=
  let d := d.record op
  if d.failing.contains op.name then (.error .injected, d)
  else if op = .getClusterStatus then (.ok (.clusterStatus status), d)
  else
    let (answer, c) := op.apply.run.run d.configuration
    (answer, { d with configuration := c })

end Device

/-- What a device holds before anything is done to it. -/
structure Seed where
  overlayGateway : Option String := none
  evpnInstance : Option String := none
  anycastMac : Option String := none
  bgpNeighbors : List String := []
  cluster : Option ClusterObject := none
  refusesLogin : Bool := false
  failing : List String := []
deriving DecidableEq, Repr, Inhabited

namespace Seed

instance : Encode Seed where
  encode s := .obj [("overlay_gateway", encode s.overlayGateway), ("evpn_instance", encode s.evpnInstance),
    ("anycast_mac", encode s.anycastMac), ("bgp_neighbors", encode s.bgpNeighbors),
    ("cluster", encode s.cluster), ("fail_login", encode s.refusesLogin),
    ("fail_operations", encode s.failing)]

instance : Decode Seed where
  decode? j := do
    let r ← Json.Record.ofJson? ["overlay_gateway", "evpn_instance", "anycast_mac", "bgp_neighbors",
      "cluster", "fail_login", "fail_operations"] j
    return {
      overlayGateway := ← r.getD "overlay_gateway" none
      evpnInstance := ← r.getD "evpn_instance" none
      anycastMac := ← r.getD "anycast_mac" none
      bgpNeighbors := ← r.getD "bgp_neighbors" []
      cluster := ← r.getD "cluster" none
      refusesLogin := ← r.getD "fail_login" false
      failing := ← r.getD "fail_operations" [] }

/-- Adds what is seeded to a device; what is not seeded stays. -/
def sow (s : Seed) (d : Device) : Device :=
  let c := d.configuration
  { d with
    configuration := { c with
      overlayGateway := s.overlayGateway <|> c.overlayGateway
      evpnInstance := s.evpnInstance <|> c.evpnInstance
      anycastMac := s.anycastMac <|> c.anycastMac
      bgpNeighbors := c.bgpNeighbors.insertMany s.bgpNeighbors
      cluster := s.cluster <|> c.cluster
      deployed := s.cluster.isSome || c.deployed }
    refusesLogin := d.refusesLogin || s.refusesLogin
    failing := d.failing.insertMany s.failing }

end Seed

/-- The devices of a network by address. -/
structure Network where
  devices : ExtTreeMap String Device := ∅

namespace Network

instance : Inhabited Network := ⟨{}⟩

/-- The addresses of the devices in ascending order. -/
def hosts (n : Network) : List String := n.devices.keys

/-- The device with an address. -/
def device? (n : Network) (host : String) : Option Device := n.devices[host]?

/-- Replaces a device, or adds it. -/
def setDevice (n : Network) (host : String) (d : Device) : Network := ⟨n.devices.insert host d⟩

/-- Changes a device, if it is there. -/
def change (n : Network) (host : String) (f : Device → Device) : Network :=
  match n.device? host with
  | some d => n.setDevice host (f d)
  | none => n

/-! ### Building a network -/

/-- Adds a device with the initial configuration, unless there is one. -/
def addSwitch (n : Network) (host : String) : Network := ⟨n.devices.insertIfNew host {}⟩

/-- The network of devices with these addresses. -/
def ofHosts (hosts : List String) : Network := hosts.foldl addSwitch {}

/-- Seeds a device, which is added if it is not there. -/
def seed (n : Network) (host : String) (s : Seed) : Network := (n.addSwitch host).change host s.sow

/-- Makes a device refuse every login. -/
def failLogin (n : Network) (host : String) : Network := n.change host ({ · with refusesLogin := true })

/-- Makes a device refuse every operation of that name. -/
def failOperation (n : Network) (host name : String) : Network :=
  n.change host fun d => { d with failing := d.failing.insert name }

/-- Makes a device report a fixed cluster status. -/
def setClusterStatus (n : Network) (host : String) (status : ClusterStatus) : Network :=
  n.change host ({ · with statusOverride := some status })

/-! ### Cluster status -/

/-- Whether a device has deployed the cluster of that name and number. -/
def hasDeployed (name : String) (id : UInt32) (d : Device) : Bool :=
  d.configuration.deployed && (d.configuration.clusterNamed? name id).isSome

/-- The addresses of the devices that have deployed a cluster, in ascending order. -/
def clusterHosts (n : Network) (name : String) (id : UInt32) : List String :=
  (n.devices.toList.filter fun (_, d) => hasDeployed name id d).map (·.1)

/-- The addresses that a device sees in its cluster; a device without a deployed cluster sees itself. -/
def visibleHosts (n : Network) (host : String) (c : Configuration) : List String :=
  match c.cluster with
  | some object => if c.deployed then n.clusterHosts object.name object.id else [host]
  | none => [host]

/-- The status of a cluster with these members, of which the first is principal. -/
def statusOf : List String → ClusterStatus
  | [] => {}
  | first :: rest => ⟨⟨first, true⟩ :: rest.map fun host => ⟨host, false⟩⟩

/-- The cluster status that a device reports. -/
def clusterStatus (n : Network) (host : String) : ClusterStatus :=
  match n.device? host with
  | none => {}
  | some d => d.statusOverride.getD (statusOf (n.visibleHosts host d.configuration))

/-! ### Sessions -/

/-- Opens a session. -/
def login (n : Network) (host : String) : Except DeviceError Unit :=
  match n.device? host with
  | none => .error (.login host "host unreachable")
  | some d => if d.refusesLogin then .error (.login host "authentication failed") else .ok ⟨⟩

/-- Sends an operation to a device. -/
def execute (n : Network) (host : String) (op : Operation) : Except DeviceError Response × Network :=
  match n.device? host with
  | none => (.error (.rejected op.name (Rejection.unknownHost host).message), n)
  | some d =>
    let (answer, d) := d.receive (n.clusterStatus host) op
    (answer.mapError fun cause => .rejected op.name cause.message, n.setDevice host d)

/-- Dialogues with the devices of a network. -/
def adapter : Adapter Network where
  login host _ n := (n.login host, n)
  execute host op n := n.execute host op

end Network

end FabricProvision

import FabricProvision.Device.Configuration
import FabricProvision.Device.Operation

/-!
# Effects of operations

`Operation.apply` carries an operation out on a configuration.  Configuring and creating succeed on what is
there already, deleting what is not there is refused, and so is creating a second object of which a switch
holds at most one.  A refused operation keeps what it did before it was refused.
-/

namespace FabricProvision

/-- Why a switch refuses an operation. -/
inductive Rejection where
  | notConfigured (what : String)
  /-- Another object of which a switch holds at most one is there. -/
  | occupied (what : String)
  /-- The interface has a donor. -/
  | unnumbered (interface donor : String)
  | emptyRouterId
  /-- No switch has this address. -/
  | unknownHost (host : String)
  /-- The switch was told to refuse the operation. -/
  | injected
deriving DecidableEq, Repr

/-- The wording of a refusal. -/
def Rejection.message : Rejection → String
  | .notConfigured what => s!"{what} is not configured"
  | .occupied what => s!"{what} exists"
  | .unnumbered interface donor => s!"{interface} is unnumbered from {donor}"
  | .emptyRouterId => "router-id cannot be empty"
  | .unknownHost host => s!"unknown host {host}"
  | .injected => "injected failure"

/-- Steps on a configuration: a refused step keeps what was done before it. -/
abbrev ConfigurationM := ExceptT Rejection (StateM Configuration)

namespace Operation

open FabricProvision.Configuration (interfaceName)

/-- Changes the configuration and acknowledges. -/
def store (f : Configuration → Configuration) : ConfigurationM Response := do
  modify f
  return .ok

/-- Refuses unless `present`. -/
def require (present : Bool) (what : String) : ConfigurationM Unit :=
  if present then return else throw (.notConfigured what)

/-- Acknowledges a step. -/
def acknowledge (step : ConfigurationM Unit) : ConfigurationM Response := do
  step
  return .ok

theorem run_store (f : Configuration → Configuration) (c : Configuration) :
    (store f).run.run c = (.ok .ok, f c) := rfl

theorem run_require (present : Bool) (what : String) (c : Configuration) :
    (require present what).run.run c = (if present then .ok ⟨⟩ else .error (.notConfigured what), c) := by
  cases present <;> rfl

theorem run_acknowledge (step : ConfigurationM Unit) (c : Configuration) :
    (acknowledge step).run.run c = ((step.run.run c).1.map fun _ => .ok, (step.run.run c).2) := by
  unfold acknowledge
  simp only [ExceptT.run_bind, StateT.run_bind]
  generalize StateT.run step.run c = r
  obtain ⟨answer, c'⟩ := r
  cases answer <;> rfl

/-! ### Interfaces -/

/-- Gives an interface that has no donor an address. -/
def setAddress (key ip : String) : ConfigurationM Unit := do
  let record := (← get).interfaces.getD key {}
  modify (·.setInterface key record)
  if let some donor := record.donor then throw (.unnumbered key donor)
  modify (·.setInterface key { record with address := some ip })

/-- Takes an address from the interface that has it. -/
def clearAddress (key ip : String) : ConfigurationM Unit := do
  match (← get).interfaces[key]?.filter (·.address == some ip) with
  | none => throw (.notConfigured s!"address {ip} on {key}")
  | some record => modify (·.setInterface key { record with address := none })

/-- Takes its address from a loopback. -/
def clearLoopback (key : String) : ConfigurationM Unit := do
  match (← get).interfaces[key]? with
  | none => throw (.notConfigured key)
  | some record => modify (·.setInterface key { record with address := none })

/-- Takes its donor from an interface, if the interface is there. -/
def clearDonor (key : String) : ConfigurationM Unit := do
  if let some record := (← get).interfaces[key]? then
    modify (·.setInterface key { record with donor := none })

/-! ### Neighbors -/

/-- Removes a BGP neighbor. -/
def removeNeighbor (address : String) : ConfigurationM Unit := do
  let present := (← get).bgpNeighbors.contains address
  modify fun c => { c with bgpNeighbors := c.bgpNeighbors.erase address }
  require present s!"neighbor {address}"

/-- Adds the two addresses of an L2 EVPN neighbor, and takes over its encapsulation if one is given. -/
def addL2EvpnNeighbor (peerIp peerLoopbackIp encapsulation : String) (c : Configuration) : Configuration :=
  { c with
    l2EvpnNeighbors := (c.l2EvpnNeighbors.insert peerIp).insert peerLoopbackIp
    encapsulation := if encapsulation.isEmpty then c.encapsulation else encapsulation }

/-- Removes the two addresses of an L2 EVPN neighbor, of which one has to be there. -/
def removeL2EvpnNeighbor (peerIp peerLoopbackIp : String) : ConfigurationM Unit := do
  let hadIp := (← get).l2EvpnNeighbors.contains peerIp
  modify fun c => { c with l2EvpnNeighbors := c.l2EvpnNeighbors.erase peerIp }
  let hadLoopback := (← get).l2EvpnNeighbors.contains peerLoopbackIp
  modify fun c => { c with l2EvpnNeighbors := c.l2EvpnNeighbors.erase peerLoopbackIp }
  require (hadIp || hadLoopback) s!"L2 EVPN neighbor {peerIp}"

/-! ### Objects of which a switch holds at most one -/

/-- Creates the EVPN instance. -/
def createEvpn (name : String) : ConfigurationM Unit := do
  if let some existing := (← get).evpnInstance.filter (· != name) then
    throw (.occupied s!"EVPN instance {existing}")
  modify fun c => { c with evpnInstance := some name }

/-- Deletes the EVPN instance of that name. -/
def deleteEvpn (name : String) : ConfigurationM Unit := do
  require ((← get).evpnInstance == some name) s!"EVPN instance {name}"
  modify fun c => { c with evpnInstance := none }

/-- Creates the overlay gateway. -/
def createGateway (name : String) : ConfigurationM Unit := do
  if let some existing := (← get).overlayGateway.filter (· != name) then
    throw (.occupied s!"overlay gateway {existing}")
  modify fun c => { c with overlayGateway := some name }

/-- Deletes the overlay gateway of that name. -/
def deleteGateway (name : String) : ConfigurationM Unit := do
  require ((← get).overlayGateway == some name) s!"overlay gateway {name}"
  modify fun c => { c with overlayGateway := none }

/-- Removes the anycast gateway. -/
def removeAnycastGateway : ConfigurationM Unit := do
  let present := (← get).anycastMac.isSome
  modify fun c => { c with anycastMac := none }
  require present "anycast gateway"

/-! ### Control VLANs, VEs and port-channels -/

/-- Creates a control VLAN bound to a VE, and the VE if it is not there. -/
def bindControlVlan (vlan ve : UInt16) (c : Configuration) : Configuration :=
  { c with controlVlans := c.controlVlans.insert vlan (some ve), ves := c.ves.insertIfNew ve none }

/-- Unbinds the VE from a control VLAN. -/
def unbindControlVe (vlan ve : UInt16) : ConfigurationM Unit := do
  require ((← get).controlVlans[vlan]? == some (some ve)) s!"VE {ve.toNat} on VLAN {vlan.toNat}"
  modify fun c => { c with controlVlans := c.controlVlans.insert vlan none }

/-- Removes a control VLAN. -/
def removeControlVlan (vlan : UInt16) : ConfigurationM Unit := do
  let present := (← get).controlVlans.contains vlan
  modify fun c => { c with controlVlans := c.controlVlans.erase vlan }
  require present s!"VLAN {vlan.toNat}"

/-- Gives a VE an address, and creates the VE if it is not there. -/
def setVeAddress (ve : UInt16) (ip : String) (c : Configuration) : Configuration :=
  { c with ves := c.ves.insert ve (some ip) }

/-- Takes an address from the VE that has it. -/
def clearVeAddress (ve : UInt16) (ip : String) : ConfigurationM Unit := do
  require ((← get).ves[ve]? == some (some ip)) s!"address {ip} on VE {ve.toNat}"
  modify fun c => { c with ves := c.ves.insert ve none }

/-- Removes a VE. -/
def removeVe (ve : UInt16) : ConfigurationM Unit := do
  let present := (← get).ves.contains ve
  modify fun c => { c with ves := c.ves.erase ve }
  require present s!"VE {ve.toNat}"

/-- Changes a port-channel that is there. -/
def changePortChannel (name : String) (f : PortChannel → PortChannel) : ConfigurationM Unit := do
  match (← get).portChannels[name]? with
  | none => throw (.notConfigured s!"port-channel {name}")
  | some p => modify fun c => { c with portChannels := c.portChannels.insert name (f p) }

/-- Creates a port-channel of some speed; one that is there keeps its members. -/
def setPortChannel (name speed : String) (c : Configuration) : Configuration :=
  { c with portChannels := c.portChannels.insert name { c.portChannels.getD name {} with speed } }

/-- Takes a member out of a port-channel. -/
def removeMember (member portChannel : String) : ConfigurationM Unit := do
  let missing := Rejection.notConfigured s!"member {member} of port-channel {portChannel}"
  match (← get).portChannels[portChannel]? with
  | none => throw missing
  | some p =>
    modify fun c => { c with
      portChannels := c.portChannels.insert portChannel { p with members := p.members.erase member } }
    if !p.members.contains member then throw missing

/-- Removes a port-channel. -/
def removePortChannel (name : String) : ConfigurationM Unit := do
  let present := (← get).portChannels.contains name
  modify fun c => { c with portChannels := c.portChannels.erase name }
  require present s!"port-channel {name}"

/-- Removes a static route. -/
def removeRoute (r : Route) : ConfigurationM Unit := do
  let present := (← get).routes.contains r
  modify fun c => { c with routes := c.routes.erase r }
  require present s!"route {r.destination}"

/-! ### The cluster object -/

/-- How messages name a cluster. -/
def clusterText (name : String) (id : UInt32) : String := s!"cluster {name} {id.toNat}"

/-- Creates the cluster object anew and deploys it, unless another cluster is there. -/
def createClusterObject (object : ClusterObject) : ConfigurationM Unit := do
  if let some existing := (← get).cluster.filter fun c => !c.isNamed object.name object.id then
    throw (.occupied (clusterText existing.name existing.id))
  modify fun c => { c with cluster := some object, deployed := true }

/-- The cluster object, which has to have that name and number. -/
def expectCluster (name : String) (id : UInt32) : ConfigurationM ClusterObject := do
  match (← get).clusterNamed? name id with
  | none => throw (.notConfigured (clusterText name id))
  | some object => return object

/-- Binds the cluster object to its control VLAN and its partner. -/
def bindCluster (b : ClusterBinding) : ConfigurationM Unit := do
  let object ← expectCluster b.name b.id
  modify fun c =>
    { c with cluster := some { object with controlVlan := some b.controlVlan, peerIp := b.peerIp } }

/-- Deletes the cluster object. -/
def removeCluster (name : String) (id : UInt32) : ConfigurationM Unit := do
  let _ ← expectCluster name id
  modify fun c => { c with cluster := none, deployed := false }

/-- Takes the cluster object out of operation. -/
def undeploy (name : String) (id : UInt32) : ConfigurationM Unit := do
  let _ ← expectCluster name id
  modify fun c => { c with deployed := false }

/-- Sets the partner's address of the cluster object and deploys it. -/
def setPeerIp (name : String) (id : UInt32) (peerIp : String) : ConfigurationM Unit := do
  let object ← expectCluster name id
  modify fun c => { c with cluster := some { object with peerIp }, deployed := true }

/-- Clears the partner's address of the cluster object that has it. -/
def clearPeerIp (name : String) (id : UInt32) (peerIp : String) : ConfigurationM Unit := do
  match ((← get).clusterNamed? name id).filter (·.peerIp == peerIp) with
  | none => throw (.notConfigured s!"peer-ip {peerIp} of cluster {name}")
  | some object => modify fun c => { c with cluster := some { object with peerIp := "" } }

/-! ### All operations -/

/-- Carries an operation out. -/
def apply : Operation → ConfigurationM Response
  | configureL2Mtu mtu => store ({ · with l2Mtu := some mtu })
  | configureIpMtu mtu => store ({ · with ipMtu := some mtu })
  | getAnycastGateway => return .named (← get).anycastMac
  | configureAnycastGateway mac _ => store ({ · with anycastMac := some mac })
  | unconfigureAnycastGateway => acknowledge removeAnycastGateway
  | configureLoopback name ip => store fun c =>
      let key := interfaceName "loopback" name
      c.setInterface key { c.interfaces.getD key {} with address := some ip }
  | deleteLoopback name => acknowledge (clearLoopback (interfaceName "loopback" name))
  | configureNumbered kind name ip _ => acknowledge (setAddress (interfaceName kind name) ip)
  | unconfigureNumbered kind name ip => acknowledge (clearAddress (interfaceName kind name) ip)
  | configureUnnumbered kind name donorKind donorName => store fun c =>
      c.setInterface (interfaceName kind name) ⟨none, some (interfaceName donorKind donorName)⟩
  | unconfigureUnnumbered kind name => acknowledge (clearDonor (interfaceName kind name))
  | getInterface kind name =>
    return .address ((← get).interfaces[interfaceName kind name]?.bind (·.address))
  | configureRouteMap => store ({ · with routeMap := true })
  | configureBgp bgp => store ({ · with localAsn := some bgp.localAsn })
  | configureNonClosBgp bgp => store ({ · with localAsn := some bgp.localAsn })
  | configureNeighbor neighbor => store fun c =>
      { c with bgpNeighbors := c.bgpNeighbors.insert neighbor.address }
  | configureNonClosEvpnNeighbor address .. => store fun c =>
      { c with bgpNeighbors := c.bgpNeighbors.insert address }
  | unconfigureNeighbor address _ _ => acknowledge (removeNeighbor address)
  | configureRouterId routerId =>
    if routerId.isEmpty then throw .emptyRouterId else store ({ · with routerId := some routerId })
  | getNeighbors => return .neighbors ((← get).bgpNeighbors ∪ (← get).l2EvpnNeighbors).toList
  | getEncapsulation => return .text (← get).encapsulation
  | configureL2EvpnNeighbor peerIp peerLoopbackIp _ _ encapsulation _ =>
    store (addL2EvpnNeighbor peerIp peerLoopbackIp encapsulation)
  | unconfigureL2EvpnNeighbor peerIp peerLoopbackIp => acknowledge (removeL2EvpnNeighbor peerIp peerLoopbackIp)
  | configureMacAndArp timers => store ({ · with macAndArp := some timers })
  | getEvpnInstance => return .named (← get).evpnInstance
  | createEvpnInstance name _ _ => acknowledge (createEvpn name)
  | deleteEvpnInstance name => acknowledge (deleteEvpn name)
  | clearEvpnNeighbors => return .ok
  | getOverlayGateway => return .named (← get).overlayGateway
  | createOverlayGateway name _ _ _ => acknowledge (createGateway name)
  | deleteOverlayGateway name => acknowledge (deleteGateway name)
  | persist => store ({ · with saved := true })
  | configureNodeId nodeId => store ({ · with nodeId := some nodeId })
  | unconfigurePrincipalPriority _ => return .ok
  | createControlVlan vlan ve _ => store (bindControlVlan vlan ve)
  | getControlVlan vlan => return .controlVe ((← get).controlVlans[vlan]?.join)
  | deleteControlVe vlan ve => acknowledge (unbindControlVe vlan ve)
  | deleteControlVlan vlan => acknowledge (removeControlVlan vlan)
  | createPortChannel name speed _ _ => store (setPortChannel name speed)
  | addMember member portChannel _ =>
    acknowledge (changePortChannel portChannel fun p => { p with members := p.members.insert member })
  | deleteMember member portChannel => acknowledge (removeMember member portChannel)
  | configureSpeed portChannel speed => acknowledge (changePortChannel portChannel ({ · with speed }))
  | deletePortChannel name => acknowledge (removePortChannel name)
  | configureVe ve ip _ => store (setVeAddress ve ip)
  | getVe ve => return .address ((← get).ves[ve]?.join)
  | configureVeIp ve ip => store (setVeAddress ve ip)
  | unconfigureVeIp ve ip => acknowledge (clearVeAddress ve ip)
  | deleteVe ve => acknowledge (removeVe ve)
  | configureRoute destination nextHop => store fun c =>
      { c with routes := c.routes.insert ⟨destination, nextHop⟩ }
  | deconfigureRoute destination nextHop => acknowledge (removeRoute ⟨destination, nextHop⟩)
  | createCluster name id peerKind peerName peerIp =>
    acknowledge (createClusterObject ⟨name, id, none, peerKind, peerName, peerIp⟩)
  | configureCluster binding => acknowledge (bindCluster binding)
  | getCluster => return .cluster (← get).cluster
  | deleteCluster name id => acknowledge (removeCluster name id)
  | undeployCluster name id => acknowledge (undeploy name id)
  | configurePeerIp name id peerIp => acknowledge (setPeerIp name id peerIp)
  | unconfigurePeerIp name id peerIp => acknowledge (clearPeerIp name id peerIp)
  | getClusterStatus => return .ok

end Operation

end FabricProvision

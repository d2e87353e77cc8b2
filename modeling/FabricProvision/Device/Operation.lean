import FabricProvision.Device.Object

/-!
# Operations

Everything that is done to a switch is one of a closed set of operations.  `name` is what plans and error
reports call an operation.
-/

namespace FabricProvision

/-- An operation on a switch. -/
inductive Operation where
  -- System
  | configureL2Mtu (mtu : UInt32)
  | configureIpMtu (mtu : UInt32)
  | getAnycastGateway
  | configureAnycastGateway (mac ipv6Mac : String)
  | unconfigureAnycastGateway
  -- Interfaces
  | configureLoopback (name ip : String)
  | deleteLoopback (name : String)
  | configureNumbered (kind name ip description : String)
  | unconfigureNumbered (kind name ip : String)
  | configureUnnumbered (kind name donorKind donorName : String)
  | unconfigureUnnumbered (kind name : String)
  | getInterface (kind name : String)
  -- BGP
  | configureRouteMap
  | configureBgp (bgp : ClosBgp)
  | configureNonClosBgp (bgp : NonClosBgp)
  | configureNeighbor (neighbor : BgpNeighbor)
  | configureNonClosEvpnNeighbor (address : String) (remoteAs : UInt32)
      (peerGroup peerGroupDescription updateSourceLoopback : String) (multihop : UInt32)
  | unconfigureNeighbor (address : String) (remoteAs : UInt32) (peerGroup : Option String)
  | configureRouterId (routerId : String)
  | getNeighbors
  -- Data-plane clusters
  | getEncapsulation
  | configureL2EvpnNeighbor (peerIp peerLoopbackIp loopbackNumber : String) (peerAsn : UInt32)
      (encapsulation : String) (bfdEnabled : Bool)
  | unconfigureL2EvpnNeighbor (peerIp peerLoopbackIp : String)
  -- EVPN
  | configureMacAndArp (timers : EvpnTimers)
  | getEvpnInstance
  | createEvpnInstance (name : String) (duplicateMacTimer duplicateMacMaxCount : UInt32)
  | deleteEvpnInstance (name : String)
  | clearEvpnNeighbors
  -- Overlay gateway and saving
  | getOverlayGateway
  | createOverlayGateway (name gatewayType loopbackId : String) (vniAutoMap : Bool)
  | deleteOverlayGateway (name : String)
  | persist
  -- Management clusters
  | configureNodeId (nodeId : UInt32)
  | unconfigurePrincipalPriority (nodeId : UInt32)
  | createControlVlan (vlan ve : UInt16) (description : String)
  | getControlVlan (vlan : UInt16)
  | deleteControlVe (vlan ve : UInt16)
  | deleteControlVlan (vlan : UInt16)
  | createPortChannel (name speed description : String) (controlVlan : UInt16)
  | addMember (member portChannel speed : String)
  | deleteMember (member portChannel : String)
  | configureSpeed (portChannel speed : String)
  | deletePortChannel (name : String)
  | configureVe (ve : UInt16) (ip : String) (bfd : Bfd)
  | getVe (ve : UInt16)
  | configureVeIp (ve : UInt16) (ip : String)
  | unconfigureVeIp (ve : UInt16) (ip : String)
  | deleteVe (ve : UInt16)
  | configureRoute (destination nextHop : String)
  | deconfigureRoute (destination nextHop : String)
  | createCluster (name : String) (id : UInt32) (peerKind peerName peerIp : String)
  | configureCluster (binding : ClusterBinding)
  | getCluster
  | deleteCluster (name : String) (id : UInt32)
  | undeployCluster (name : String) (id : UInt32)
  | configurePeerIp (name : String) (id : UInt32) (peerIp : String)
  | unconfigurePeerIp (name : String) (id : UInt32) (peerIp : String)
  | getClusterStatus
deriving DecidableEq, Repr

namespace Operation

/-- What people call the operation. -/
def name : Operation → String
  | .configureL2Mtu .. => "Configure System L2 MTU"
  | .configureIpMtu .. => "Configure System IP MTU"
  | .getAnycastGateway => "Get Anycast Gateway"
  | .configureAnycastGateway .. => "Configure Anycast Gateway"
  | .unconfigureAnycastGateway => "Unconfigure Anycast Gateway"
  | .configureLoopback .. => "Configure Interface Loopback"
  | .deleteLoopback .. => "Delete Interface Loopback"
  | .configureNumbered .. => "Configure Interface Numbered"
  | .unconfigureNumbered .. => "Unconfigure Interface Numbered"
  | .configureUnnumbered .. => "Configure Interface Unnumbered"
  | .unconfigureUnnumbered .. => "Unconfigure Interface Unnumbered"
  | .getInterface .. => "Get Interface"
  | .configureRouteMap => "Configure Numbered Route Map"
  | .configureBgp .. => "Configure Router BGP"
  | .configureNonClosBgp .. => "Configure Non-CLOS Router BGP"
  | .configureNeighbor .. => "Configure Router BGP Neighbor"
  | .configureNonClosEvpnNeighbor .. => "Configure Non-CLOS EVPN Neighbor"
  | .unconfigureNeighbor .. => "Unconfigure Router BGP Neighbor"
  | .configureRouterId .. => "Configure Router ID"
  | .getNeighbors => "Get Router BGP"
  | .getEncapsulation => "Get L2 EVPN Neighbor Encapsulation"
  | .configureL2EvpnNeighbor .. => "Configure L2 EVPN Neighbor"
  | .unconfigureL2EvpnNeighbor .. => "Unconfigure L2 EVPN Neighbor"
  | .configureMacAndArp .. => "Configure Mac And Arp"
  | .getEvpnInstance => "Get EVPN Instance"
  | .createEvpnInstance .. => "Create EVPN Instance"
  | .deleteEvpnInstance .. => "Delete EVPN Instance"
  | .clearEvpnNeighbors => "Clear BGP EVPN Neighbor All"
  | .getOverlayGateway => "Get Overlay Gateway"
  | .createOverlayGateway .. => "Create Overlay Gateway"
  | .deleteOverlayGateway .. => "Delete Overlay Gateway"
  | .persist => "Persist Config"
  | .configureNodeId .. => "Configure Node Id"
  | .unconfigurePrincipalPriority .. => "Unconfigure Node Principal Priority"
  | .createControlVlan .. => "Create Cluster Control VLAN"
  | .getControlVlan .. => "Get Cluster Control VLAN"
  | .deleteControlVe .. => "Delete Cluster Control VE"
  | .deleteControlVlan .. => "Delete Cluster Control VLAN"
  | .createPortChannel .. => "Create Interface Port-channel"
  | .addMember .. => "Add Interface To Port-channel"
  | .deleteMember .. => "Delete Interface From Port-channel"
  | .configureSpeed .. => "Configure Port-channel Speed"
  | .deletePortChannel .. => "Delete Interface Port-channel"
  | .configureVe .. => "Configure Interface VE"
  | .getVe .. => "Get Interface VE"
  | .configureVeIp .. => "Configure Interface VE IP"
  | .unconfigureVeIp .. => "Unconfigure Interface VE IP"
  | .deleteVe .. => "Delete Interface VE"
  | .configureRoute .. => "Configure IP Route"
  | .deconfigureRoute .. => "Deconfigure IP Route"
  | .createCluster .. => "Create Cluster"
  | .configureCluster .. => "Configure Cluster"
  | .getCluster => "Get Cluster"
  | .deleteCluster .. => "Delete Cluster"
  | .undeployCluster .. => "Undeploy Cluster"
  | .configurePeerIp .. => "Configure Cluster Peer IP"
  | .unconfigurePeerIp .. => "Unconfigure Cluster Peer IP"
  | .getClusterStatus => "Get Management Cluster Status"

end Operation

end FabricProvision

import FabricProvision.Desired.Switch
import FabricProvision.Provision.Session

/-!
# BGP

The BGP process of a switch, its neighbors and its router-id.  Neighbors to remove are removed before any other
is configured.
-/

namespace FabricProvision.SwitchSpec

open Dialogue

variable (t : Topology) (s : SwitchSpec)

/-- The encapsulation of EVPN traffic. -/
def vxlan : String := "vxlan"

/-! ### The process -/

/-- Whether the connected routes of a leaf of a Clos fabric are redistributed through a route map: it has no
overlay gateway and its links are numbered. -/
def needsRouteMap : Bool :=
  t == .clos && s.role == .leaf && !s.overlay.enabled && s.bgp.linkAddressing == .numbered

/-- Which connected routes are redistributed. -/
def redistribution : Redistribution :=
  if s.role == .leaf && !s.overlay.enabled then
    match s.bgp.linkAddressing with
    | .numbered => .connectedWithRouteMap
    | .unnumbered => .connected
  else .off

/-- The BGP process in a Clos fabric. -/
def closBgp : ClosBgp where
  localAsn := s.bgp.localAsn
  peerGroup := s.bgp.peerGroup
  peerGroupDescription := s.bgp.peerGroupDescription
  network := s.bgp.network
  maxPaths := s.bgp.maxPaths
  overlayGateway := s.overlay.enabled
  allowasIn := s.bgp.allowasIn
  retainRouteTargets := s.role == .spine
  nextHopUnchanged := s.role == .spine
  bfd := s.bfd
  redistribution := s.redistribution

/-- The BGP process in a fabric of racks. -/
def nonClosBgp : NonClosBgp where
  localAsn := s.bgp.localAsn
  networks := [s.bgp.network, s.bgp.nonClosNetwork].filter (!·.isEmpty)
  bfd := s.bfd
  peerGroup := s.bgp.peerGroup
  peerGroupDescription := s.bgp.peerGroupDescription
  evpnPeerGroup := s.bgp.evpnPeerGroup
  evpnPeerGroupDescription := s.bgp.evpnPeerGroupDescription
  multihop := s.bgp.multihop
  maxPaths := s.bgp.maxPaths
  encapsulation := vxlan
  nextHopUnchanged := true
  retainRouteTargets := true

/-- The operation that configures the BGP process. -/
def bgpOperation : Operation :=
  match t with
  | .clos => .configureBgp s.closBgp
  | .nonClos => .configureNonClosBgp s.nonClosBgp

/-! ### Neighbors -/

/-- The peer group of a neighbor. -/
def peerGroup? (n : NeighborSpec) : Option String :=
  match t, n.kind with
  | .clos, _ => some s.bgp.peerGroup
  | .nonClos, .fabric => some s.bgp.peerGroup
  | .nonClos, .evpn => some s.bgp.evpnPeerGroup
  | .nonClos, .clusterLoopback => none

/-- The operation that removes a neighbor. -/
def removalOperation (n : NeighborSpec) : Operation :=
  .unconfigureNeighbor n.address n.remoteAs (s.peerGroup? t n)

/-- The operation that configures a neighbor. -/
def neighborOperation (n : NeighborSpec) : Operation :=
  if t = .nonClos ∧ n.kind = .evpn then
    .configureNonClosEvpnNeighbor n.address n.remoteAs s.bgp.evpnPeerGroup s.bgp.evpnPeerGroupDescription
      s.loopbackPort s.bgp.multihop
  else
    .configureNeighbor {
      address := n.address
      remoteAs := n.remoteAs
      peerGroup := s.peerGroup? t n
      multihop := s.bgp.multihop
      unnumbered := s.bgp.linkAddressing == .unnumbered
      isLeaf := s.role == .leaf
      nextHopSelf := t == .nonClos && n.kind == .clusterLoopback
      bfd := s.bfd.enabled }

/-- The neighbors to remove. -/
def staleNeighbors : List NeighborSpec := s.neighbors.filter fun n => n.change == .delete

/-- The neighbors to configure. -/
def wantedNeighbors : List NeighborSpec :=
  s.neighbors.filter fun n => n.change == .create || n.change == .update

/-! ### All of it -/

/-- The operations on the BGP process, each with the name of its step.  Without an address to take it from, the
router-id is empty, which the switch refuses. -/
def bgpSteps : List (String × Operation) :=
  (if s.needsRouteMap t then [("BGP Operation Route Map", .configureRouteMap)] else []) ++
    [("BGP Operation", s.bgpOperation t)] ++
    s.staleNeighbors.map (fun n => ("BGP Neighbor", s.removalOperation t n)) ++
    s.wantedNeighbors.map (fun n => ("BGP Neighbor", s.neighborOperation t n)) ++
    [("Router ID", .configureRouterId (s.routerId?.getD ""))]

/-- Configures BGP. -/
def provisionBgp : Dialogue (List Failure) :=
  fanOut (s.bgpSteps t) fun (operation, op) => performStep operation s.host op

end FabricProvision.SwitchSpec

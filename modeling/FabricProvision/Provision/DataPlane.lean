import FabricProvision.Provision.Bgp

/-!
# Data-plane clusters

The members of a data-plane cluster are L2 EVPN neighbors of each other.  Each member gets a session of its own.
-/

namespace FabricProvision

open Dialogue

namespace DataPlaneNode

variable (n : DataPlaneNode)

/-- Removes the partner from a member's L2 EVPN neighbors, if the member has either of its addresses among its
neighbors. -/
def remove : Dialogue (List Failure) :=
  let operation := "Unconfigure Data Plane Cluster"
  session operation n.host n.credentials <| step operation n.host do
    match ← query n.host .getNeighbors Response.toNeighbors with
    | .error e => return .error (.step e)
    | .ok addresses =>
      if addresses.contains n.peerIp || addresses.contains n.peerLoopbackIp then
        perform n.host (.unconfigureL2EvpnNeighbor n.peerIp n.peerLoopbackIp)
      else return .ok ⟨⟩

/-- The encapsulation that a switch uses, from its answer. -/
def encapsulationOf (answer : Except DeviceError String) : String :=
  match answer with
  | .ok encapsulation => if encapsulation.isEmpty then SwitchSpec.vxlan else encapsulation
  | .error _ => SwitchSpec.vxlan

/-- Adds the partner to a member's L2 EVPN neighbors, with the encapsulation that the member uses. -/
def add : Dialogue (List Failure) :=
  let operation := "Configure Data Plane Cluster"
  session operation n.host n.credentials <| step operation n.host do
    let encapsulation := encapsulationOf (← query n.host .getEncapsulation Response.toText)
    perform n.host (.configureL2EvpnNeighbor n.peerIp n.peerLoopbackIp n.loopbackNumber n.peerAsn encapsulation
      n.bfdEnabled)

end DataPlaneNode

namespace DataPlaneSpec

/-- Removes the neighbors of a data-plane cluster. -/
def remove (d : DataPlaneSpec) : Dialogue (List Failure) := fanOut d.nodes DataPlaneNode.remove

/-- Adds the neighbors of a data-plane cluster. -/
def add (d : DataPlaneSpec) : Dialogue (List Failure) := fanOut d.nodes DataPlaneNode.add

end DataPlaneSpec

end FabricProvision

import FabricProvision.Provision.DataPlane
import FabricProvision.Provision.Interface
import FabricProvision.Provision.Unique

/-!
# Switches

A switch is configured in one session and in fixed stages: system, interfaces, BGP, removal of data-plane
neighbors, EVPN, new data-plane neighbors.  A step that fails is reported and the next one follows; only without
a session nothing is done.
-/

namespace FabricProvision.SwitchSpec

open Dialogue

variable (t : Topology) (force : Bool) (s : SwitchSpec)

/-- Whether the switch has the role that carries the EVPN instance and the overlay gateway. -/
def isOverlay : Bool := s.role == t.overlayRole

/-! ### Stages -/

/-- Sets the MTUs, and the anycast gateway where there is an overlay. -/
def provisionSystem : Dialogue (List Failure) :=
  collect <| [
    performStep "Configure System L2 MTU" s.host (.configureL2Mtu s.mtu),
    performStep "Configure System IP MTU" s.host (.configureIpMtu s.ipMtu)] ++
    if s.overlay.enabled && s.isOverlay t then
      [step "Configure Anycast Gateway" s.host <|
        UniqueObject.ensure s.host .anycastGateway s.overlay.anycastMac
          (.configureAnycastGateway s.overlay.anycastMac s.overlay.ipv6AnycastMac) force]
    else []

/-- Brings every interface to its desired state. -/
def provisionInterfaces : Dialogue (List Failure) :=
  fanOut s.interfaces fun i => step "Configure Interface" s.host (i.provision s.host)

/-- Configures the EVPN instance.  The neighbors are cleared once it is there. -/
def provisionEvpn : Dialogue (List Failure) := do
  let early ← performStep "Mac & Arp" s.host (.configureMacAndArp s.evpn)
  let failed ← step "EVPN" s.host <|
    UniqueObject.ensure s.host .evpnInstance s.fabric
      (.createEvpnInstance s.fabric s.evpn.duplicateMacTimer s.evpn.duplicateMacMaxCount) force
  if failed.isEmpty then
    let late ← performStep "Clearing All BGP EVPN Neighbour" s.host .clearEvpnNeighbors
    return early ++ late
  else return early ++ failed

/-! ### Whole jobs -/

/-- Brings the switch to its desired state, the overlay gateway apart. -/
def configure : Dialogue (List Failure) :=
  session "Configure Switch Login" s.host s.credentials <| collect <|
    [s.provisionSystem t force, s.provisionInterfaces, s.provisionBgp t, s.staleDataPlane.remove] ++
      (if s.isOverlay t then [s.provisionEvpn force] else []) ++ [s.dataPlane.add]

/-- Creates the overlay gateway, which has the name of the fabric. -/
def configureOverlayGateway : Dialogue (List Failure) :=
  let operation := "Configure Overlay Gateway"
  session operation s.host s.credentials <| step operation s.host <|
    UniqueObject.ensure s.host .overlayGateway s.fabric
      (.createOverlayGateway s.fabric "layer2-extension" s.overlay.vtepLoopback s.overlay.vlanVniAutoMap) force

/-- Saves the configuration. -/
def persist : Dialogue (List Failure) :=
  let operation := "Persist Config"
  session operation s.host s.credentials (performStep operation s.host .persist)

end FabricProvision.SwitchSpec

import FabricProvision.Proofs.Step.Run

/-!
# Parts of a configuration

A configuration falls into parts, and every operation is about one of them: it changes no other part, whether
it is carried out or refused (`Operation.apply_writes`).  All objects of a management cluster are one part,
every interface is a part of its own.
-/

namespace FabricProvision

open Std (ExtTreeMap)
open Operation Step

/-- A part of a configuration. -/
inductive Part where
  | l2Mtu
  | ipMtu
  | anycastGateway
  | interface (key : String)
  | routeMap
  | localAsn
  | neighbors
  | routerId
  | dataPlane
  | macAndArp
  | evpnInstance
  | overlayGateway
  | saved
  | cluster
deriving DecidableEq

namespace Part

/-- Two configurations have the part in common. -/
def Same (c c' : Configuration) : Part → Prop
  | l2Mtu => c'.l2Mtu = c.l2Mtu
  | ipMtu => c'.ipMtu = c.ipMtu
  | anycastGateway => c'.anycastMac = c.anycastMac
  | interface key => c'.interfaces[key]? = c.interfaces[key]?
  | routeMap => c'.routeMap = c.routeMap
  | localAsn => c'.localAsn = c.localAsn
  | neighbors => c'.bgpNeighbors = c.bgpNeighbors
  | routerId => c'.routerId = c.routerId
  | dataPlane => c'.l2EvpnNeighbors = c.l2EvpnNeighbors ∧ c'.encapsulation = c.encapsulation
  | macAndArp => c'.macAndArp = c.macAndArp
  | evpnInstance => c'.evpnInstance = c.evpnInstance
  | overlayGateway => c'.overlayGateway = c.overlayGateway
  | saved => c'.saved = c.saved
  | cluster => c'.nodeId = c.nodeId ∧ c'.controlVlans = c.controlVlans ∧ c'.ves = c.ves ∧
      c'.portChannels = c.portChannels ∧ c'.routes = c.routes ∧ c'.cluster = c.cluster ∧
      c'.deployed = c.deployed

theorem same_refl (p : Part) (c : Configuration) : p.Same c c := by
  cases p <;> simp [Same]

theorem same_trans {p : Part} {c c' c'' : Configuration} (h : p.Same c c') (h' : p.Same c' c'') :
    p.Same c c'' := by
  cases p <;> simp_all [Same]

theorem same_symm {p : Part} {c c' : Configuration} (h : p.Same c c') : p.Same c' c := by
  cases p <;> simp_all [Same]

/-- A configuration is made up of its parts. -/
theorem eq_of_same {c c' : Configuration} (h : ∀ p : Part, p.Same c c') : c' = c := by
  have hinterfaces : c'.interfaces = c.interfaces := ExtTreeMap.ext_getElem? fun key => h (.interface key)
  have hl2Mtu : c'.l2Mtu = c.l2Mtu := h .l2Mtu
  have hipMtu : c'.ipMtu = c.ipMtu := h .ipMtu
  have hanycast : c'.anycastMac = c.anycastMac := h .anycastGateway
  have hrouteMap : c'.routeMap = c.routeMap := h .routeMap
  have hlocalAsn : c'.localAsn = c.localAsn := h .localAsn
  have hneighbors : c'.bgpNeighbors = c.bgpNeighbors := h .neighbors
  have hrouterId : c'.routerId = c.routerId := h .routerId
  have hmacAndArp : c'.macAndArp = c.macAndArp := h .macAndArp
  have hevpn : c'.evpnInstance = c.evpnInstance := h .evpnInstance
  have hgateway : c'.overlayGateway = c.overlayGateway := h .overlayGateway
  have hsaved : c'.saved = c.saved := h .saved
  obtain ⟨hl2Evpn, hencapsulation⟩ := h .dataPlane
  obtain ⟨hnodeId, hvlans, hves, hchannels, hroutes, hcluster, hdeployed⟩ := h .cluster
  cases c
  cases c'
  simp_all

/-- Only this part is different. -/
def Writes (p : Part) (c c' : Configuration) : Prop := ∀ q, q ≠ p → q.Same c c'

instance (p : Part) : Std.Refl p.Writes := ⟨fun c q _ => q.same_refl c⟩

instance (p : Part) : Trans p.Writes p.Writes p.Writes := ⟨fun h h' q hq => same_trans (h q hq) (h' q hq)⟩

private theorem writes_setInterface (key : String) (r : InterfaceRecord) (c : Configuration) :
    (interface key).Writes c (c.setInterface key r) := by
  intro q hq
  cases q with
  | interface other =>
    have hne : key ≠ other := fun h => hq (by rw [h])
    simp only [Same, Configuration.setInterface, ExtTreeMap.getElem?_insert, Std.LawfulEqOrd.compare_eq_iff_eq,
      hne, if_false]
  | _ => simp only [Same, Configuration.setInterface, and_self]

end Part

namespace Operation

/-- The part that an operation is about. -/
def part : Operation → Part
  | configureL2Mtu _ => .l2Mtu
  | configureIpMtu _ => .ipMtu
  | getAnycastGateway | configureAnycastGateway _ _ | unconfigureAnycastGateway => .anycastGateway
  | configureLoopback name _ | deleteLoopback name => .interface (Configuration.interfaceName "loopback" name)
  | configureNumbered kind name _ _ | unconfigureNumbered kind name _ | configureUnnumbered kind name _ _
  | unconfigureUnnumbered kind name | getInterface kind name => .interface (Configuration.interfaceName kind name)
  | configureRouteMap => .routeMap
  | configureBgp _ | configureNonClosBgp _ => .localAsn
  | configureNeighbor _ | configureNonClosEvpnNeighbor .. | unconfigureNeighbor .. => .neighbors
  | configureRouterId _ => .routerId
  | getNeighbors | getEncapsulation | configureL2EvpnNeighbor .. | unconfigureL2EvpnNeighbor .. => .dataPlane
  | configureMacAndArp _ => .macAndArp
  | getEvpnInstance | createEvpnInstance .. | deleteEvpnInstance _ | clearEvpnNeighbors => .evpnInstance
  | getOverlayGateway | createOverlayGateway .. | deleteOverlayGateway _ => .overlayGateway
  | persist => .saved
  | configureNodeId _ | unconfigurePrincipalPriority _ | createControlVlan .. | getControlVlan _
  | deleteControlVe .. | deleteControlVlan _ | createPortChannel .. | addMember .. | deleteMember ..
  | configureSpeed .. | deletePortChannel _ | configureVe .. | getVe _ | configureVeIp .. | unconfigureVeIp ..
  | deleteVe _ | configureRoute .. | deconfigureRoute .. | createCluster .. | configureCluster _ | getCluster
  | deleteCluster .. | undeployCluster .. | configurePeerIp .. | unconfigurePeerIp ..
  | getClusterStatus => .cluster

/-! ### What steps write -/

section respects

variable {R : Configuration → Configuration → Prop}

theorem respects_require [Std.Refl R] (present : Bool) (what : String) : Respects R (require present what) := by
  cases present <;> exact Std.Refl.refl

theorem respects_store {f : Configuration → Configuration} (h : ∀ c, R c (f c)) : Respects R (store f) := h

theorem respects_acknowledge [Std.Refl R] [Trans R R R] {step : ConfigurationM Unit} (h : Respects R step) :
    Respects R (acknowledge step) := respects_bind h fun _ => respects_pure _

end respects

private theorem writes_setAddress (key ip : String) :
    Respects (Part.Writes (.interface key)) (setAddress key ip) := by
  unfold setAddress
  refine respects_bind respects_get fun c => ?_
  refine respects_bind (respects_modify (Part.writes_setInterface key _)) fun _ => ?_
  split
  · exact respects_bind (respects_throw _) fun _ => respects_modify (Part.writes_setInterface key _)
  · exact respects_modify (Part.writes_setInterface key _)

private theorem writes_clearAddress (key ip : String) :
    Respects (Part.Writes (.interface key)) (clearAddress key ip) := by
  unfold clearAddress
  refine respects_bind respects_get fun c => ?_
  split
  · exact respects_throw _
  · exact respects_modify (Part.writes_setInterface key _)

private theorem writes_clearLoopback (key : String) :
    Respects (Part.Writes (.interface key)) (clearLoopback key) := by
  unfold clearLoopback
  refine respects_bind respects_get fun c => ?_
  split
  · exact respects_throw _
  · exact respects_modify (Part.writes_setInterface key _)

private theorem writes_clearDonor (key : String) : Respects (Part.Writes (.interface key)) (clearDonor key) := by
  unfold clearDonor
  refine respects_bind respects_get fun c => ?_
  split
  · exact respects_modify (Part.writes_setInterface key _)
  · exact respects_pure _

/-- An operation changes nothing but the part it is about. -/
theorem apply_writes (op : Operation) (c : Configuration) : op.part.Writes c (op.apply.run.run c).2 := by
  revert c
  show Respects op.part.Writes op.apply
  cases op with
  | configureLoopback name ip => exact respects_store fun c => Part.writes_setInterface _ _ c
  | deleteLoopback name => exact respects_acknowledge (writes_clearLoopback _)
  | configureNumbered kind name ip _ => exact respects_acknowledge (writes_setAddress _ _)
  | unconfigureNumbered kind name ip => exact respects_acknowledge (writes_clearAddress _ _)
  | configureUnnumbered kind name _ _ => exact respects_store (Part.writes_setInterface _ _)
  | unconfigureUnnumbered kind name => exact respects_acknowledge (writes_clearDonor _)
  | _ =>
    simp only [apply, part, store, acknowledge, removeAnycastGateway, removeNeighbor, removeL2EvpnNeighbor,
      createEvpn, deleteEvpn, createGateway, deleteGateway, unbindControlVe, removeControlVlan, clearVeAddress,
      removeVe, changePortChannel, removeMember, removePortChannel, removeRoute, createClusterObject,
      expectCluster, bindCluster, removeCluster, undeploy, setPeerIp, clearPeerIp]
    -- A removal only writes after what it removes was found; both branches are steps on the part.
    repeat' with_reducible first
      | exact respects_get
      | exact respects_pure _
      | exact respects_throw _
      | exact respects_require _ _
      | refine respects_bind ?_ fun _ => ?_
      | apply respects_modify
      | split
    all_goals
      intro c q hq
      cases q <;> first
        | exact absurd rfl hq
        | exact rfl
        | exact ⟨rfl, rfl⟩
        | exact ⟨rfl, rfl, rfl, rfl, rfl, rfl, rfl⟩

end Operation

end FabricProvision

import FabricProvision.Proofs.Device.Frames
import FabricProvision.Proofs.Dialogue.Clean
import FabricProvision.Proofs.Maps

/-!
# What operations achieve

An operation that configures something leaves the configuration with what it was sent for (`Achieved`).  It is
then carried out again without any effect (`apply_of_achieved`).  What it was sent for is in the part that the
operation is about, so it lasts as long as only other parts change (`Achieved.congr`).
-/

namespace FabricProvision

open Std (ExtTreeMap ExtTreeSet)
open Step FabricProvision.Configuration

namespace Operation

/-- The configuration has what the operation is for.  Operations that ask or take away are for nothing. -/
def Achieved (c : Configuration) : Operation → Prop
  | configureL2Mtu mtu => c.l2Mtu = some mtu
  | configureIpMtu mtu => c.ipMtu = some mtu
  | configureAnycastGateway mac _ => c.anycastMac = some mac
  | configureLoopback name ip => ∃ donor, c.interfaces[interfaceName "loopback" name]? = some ⟨some ip, donor⟩
  | configureNumbered kind name ip _ => c.interfaces[interfaceName kind name]? = some ⟨some ip, none⟩
  | configureUnnumbered kind name donorKind donorName =>
    c.interfaces[interfaceName kind name]? = some ⟨none, some (interfaceName donorKind donorName)⟩
  | configureRouteMap => c.routeMap = true
  | configureBgp bgp => c.localAsn = some bgp.localAsn
  | configureNonClosBgp bgp => c.localAsn = some bgp.localAsn
  | configureNeighbor neighbor => neighbor.address ∈ c.bgpNeighbors
  | configureNonClosEvpnNeighbor address .. => address ∈ c.bgpNeighbors
  | configureRouterId routerId => routerId.isEmpty = false ∧ c.routerId = some routerId
  | configureMacAndArp timers => c.macAndArp = some timers
  | createEvpnInstance name _ _ => c.evpnInstance = some name
  | clearEvpnNeighbors => True
  | createOverlayGateway name _ _ _ => c.overlayGateway = some name
  | persist => c.saved = true
  | _ => False

/-- The operation is for something. -/
def configures : Operation → Bool
  | configureL2Mtu _ | configureIpMtu _ | configureAnycastGateway .. | configureLoopback .. | configureNumbered ..
  | configureUnnumbered .. | configureRouteMap | configureBgp _ | configureNonClosBgp _ | configureNeighbor _
  | configureNonClosEvpnNeighbor .. | configureRouterId _ | configureMacAndArp _ | createEvpnInstance ..
  | clearEvpnNeighbors | createOverlayGateway .. | persist => true
  | _ => false

/-! ### Records of interfaces -/

theorem getElem?_setInterface (c : Configuration) (key : String) (r : InterfaceRecord) :
    (c.setInterface key r).interfaces[key]? = some r := ExtTreeMap.getElem?_insert_self

theorem setInterface_setInterface (c : Configuration) (key : String) (r r' : InterfaceRecord) :
    (c.setInterface key r).setInterface key r' = c.setInterface key r' := by
  unfold setInterface
  rw [insert_insert]

theorem setInterface_of_getElem? {c : Configuration} {key : String} {r : InterfaceRecord}
    (h : c.interfaces[key]? = some r) : c.setInterface key r = c := by
  unfold setInterface
  rw [insert_of_getElem? h]

private theorem getD_of_getElem? {c : Configuration} {key : String} {r : InterfaceRecord}
    (h : c.interfaces[key]? = some r) : c.interfaces.getD key {} = r := by
  rw [ExtTreeMap.getD_eq_getD_getElem?, h]
  rfl

/-! ### Steps -/

/-- An interface with a donor is left as it was. -/
theorem run_setAddress (key ip : String) (c : Configuration) :
    (setAddress key ip).run.run c =
      match (c.interfaces.getD key {}).donor with
      | some donor => (.error (.unnumbered key donor), c.setInterface key (c.interfaces.getD key {}))
      | none => (.ok ⟨⟩, c.setInterface key ⟨some ip, none⟩) := by
  unfold setAddress
  simp only [run_bind, run_get, run_modify]
  generalize c.interfaces.getD key {} = r
  obtain ⟨address, donor⟩ := r
  cases donor with
  | some donor => rfl
  | none =>
    simp only [run_modify, setInterface_setInterface]

theorem run_clearAddress (key ip : String) (c : Configuration) :
    (clearAddress key ip).run.run c =
      match c.interfaces[key]?.filter (·.address == some ip) with
      | none => (.error (.notConfigured s!"address {ip} on {key}"), c)
      | some r => (.ok ⟨⟩, c.setInterface key { r with address := none }) := by
  unfold clearAddress
  simp only [run_bind, run_get]
  rcases Option.eq_none_or_eq_some (c.interfaces[key]?.filter (·.address == some ip)) with h | ⟨r, h⟩ <;>
    simp only [h] <;> rfl

theorem run_clearLoopback (key : String) (c : Configuration) :
    (clearLoopback key).run.run c =
      match c.interfaces[key]? with
      | none => (.error (.notConfigured key), c)
      | some r => (.ok ⟨⟩, c.setInterface key { r with address := none }) := by
  unfold clearLoopback
  simp only [run_bind, run_get]
  rcases Option.eq_none_or_eq_some c.interfaces[key]? with h | ⟨r, h⟩ <;> simp only [h] <;> rfl

theorem run_clearDonor (key : String) (c : Configuration) :
    (clearDonor key).run.run c =
      match c.interfaces[key]? with
      | none => (.ok ⟨⟩, c)
      | some r => (.ok ⟨⟩, c.setInterface key { r with donor := none }) := by
  unfold clearDonor
  simp only [run_bind, run_get]
  rcases Option.eq_none_or_eq_some c.interfaces[key]? with h | ⟨r, h⟩ <;> simp only [h] <;> rfl

theorem run_createEvpn (name : String) (c : Configuration) :
    (createEvpn name).run.run c =
      match c.evpnInstance.filter (· != name) with
      | some existing => (.error (.occupied s!"EVPN instance {existing}"), c)
      | none => (.ok ⟨⟩, { c with evpnInstance := some name }) := by
  unfold createEvpn
  simp only [run_bind, run_get]
  cases c.evpnInstance.filter (· != name) <;> rfl

theorem run_createGateway (name : String) (c : Configuration) :
    (createGateway name).run.run c =
      match c.overlayGateway.filter (· != name) with
      | some existing => (.error (.occupied s!"overlay gateway {existing}"), c)
      | none => (.ok ⟨⟩, { c with overlayGateway := some name }) := by
  unfold createGateway
  simp only [run_bind, run_get]
  cases c.overlayGateway.filter (· != name) <;> rfl

/-! ### Operations -/

/-- An operation that configures something and is not refused achieves what it is for. -/
theorem achieved_of_apply {op : Operation} (hop : op.configures = true) {c : Configuration} {r : Response}
    (h : (op.apply.run.run c).1 = .ok r) : op.Achieved (op.apply.run.run c).2 := by
  cases op with
  | configureLoopback name ip => exact ⟨_, getElem?_setInterface c _ _⟩
  | configureUnnumbered kind name donorKind donorName => exact getElem?_setInterface c _ _
  | configureNumbered kind name ip description =>
    simp only [apply, run_acknowledge, run_setAddress] at h ⊢
    cases hdonor : (c.interfaces.getD (interfaceName kind name) {}).donor with
    | some donor => simp [hdonor, Except.map] at h
    | none => exact getElem?_setInterface c _ _
  | configureNeighbor neighbor => exact ExtTreeSet.mem_insert_self
  | configureNonClosEvpnNeighbor address => exact ExtTreeSet.mem_insert_self
  | configureRouterId routerId =>
    by_cases hempty : routerId.isEmpty = true
    · simp [apply, hempty] at h
    · simp only [apply, hempty, if_false, Bool.false_eq_true]
      exact ⟨by simpa using hempty, rfl⟩
  | createEvpnInstance name timer count =>
    simp only [apply, run_acknowledge, run_createEvpn] at h ⊢
    cases hother : c.evpnInstance.filter (· != name) with
    | some existing => simp [hother, Except.map] at h
    | none => rfl
  | createOverlayGateway name gatewayType loopback vniAutoMap =>
    simp only [apply, run_acknowledge, run_createGateway] at h ⊢
    cases hother : c.overlayGateway.filter (· != name) with
    | some existing => simp [hother, Except.map] at h
    | none => rfl
  | configureL2Mtu | configureIpMtu | configureAnycastGateway | configureRouteMap | configureBgp
  | configureNonClosBgp | configureMacAndArp | persist => rfl
  | clearEvpnNeighbors => trivial
  | _ => cases hop

private theorem filter_ne_self {name : String} : (some name).filter (· != name) = none := by
  simp [Option.filter]

/-- An operation that has achieved what it is for has no further effect. -/
theorem apply_of_achieved {op : Operation} {c : Configuration} (h : op.Achieved c) :
    op.apply.run.run c = (.ok .ok, c) := by
  cases op with
  | configureLoopback name ip =>
    obtain ⟨donor, h⟩ := h
    have hsame : c.setInterface (interfaceName "loopback" name)
        { c.interfaces.getD (interfaceName "loopback" name) {} with address := some ip } = c := by
      rw [getD_of_getElem? h]
      exact setInterface_of_getElem? h
    exact congrArg (fun c' => (Except.ok Response.ok, c')) hsame
  | configureUnnumbered kind name donorKind donorName =>
    exact congrArg (fun c' => (Except.ok Response.ok, c')) (setInterface_of_getElem? h)
  | configureNumbered kind name ip description =>
    have h : c.interfaces[interfaceName kind name]? = some ⟨some ip, none⟩ := h
    simp only [apply, run_acknowledge, run_setAddress, getD_of_getElem? h, setInterface_of_getElem? h]
    rfl
  | configureNeighbor neighbor =>
    have h : neighbor.address ∈ c.bgpNeighbors := h
    simp only [apply, run_store, set_insert_of_mem h]
  | configureNonClosEvpnNeighbor address =>
    have h : address ∈ c.bgpNeighbors := h
    simp only [apply, run_store, set_insert_of_mem h]
  | configureRouterId routerId =>
    obtain ⟨hempty, h⟩ := h
    simp only [apply, hempty, if_false, Bool.false_eq_true, run_store, ← h]
  | createEvpnInstance name timer count =>
    have h : c.evpnInstance = some name := h
    have hother : c.evpnInstance.filter (· != name) = none := by rw [h, filter_ne_self]
    simp only [apply, run_acknowledge, run_createEvpn, hother]
    rw [← h]
    rfl
  | createOverlayGateway name gatewayType loopback vniAutoMap =>
    have h : c.overlayGateway = some name := h
    have hother : c.overlayGateway.filter (· != name) = none := by rw [h, filter_ne_self]
    simp only [apply, run_acknowledge, run_createGateway, hother]
    rw [← h]
    rfl
  | configureL2Mtu mtu =>
    have h : c.l2Mtu = some mtu := h
    simp only [apply, run_store, ← h]
  | configureIpMtu mtu =>
    have h : c.ipMtu = some mtu := h
    simp only [apply, run_store, ← h]
  | configureAnycastGateway mac ipv6Mac =>
    have h : c.anycastMac = some mac := h
    simp only [apply, run_store, ← h]
  | configureRouteMap =>
    have h : c.routeMap = true := h
    simp only [apply, run_store, ← h]
  | configureBgp bgp =>
    have h : c.localAsn = some bgp.localAsn := h
    simp only [apply, run_store, ← h]
  | configureNonClosBgp bgp =>
    have h : c.localAsn = some bgp.localAsn := h
    simp only [apply, run_store, ← h]
  | configureMacAndArp timers =>
    have h : c.macAndArp = some timers := h
    simp only [apply, run_store, ← h]
  | persist =>
    have h : c.saved = true := h
    simp only [apply, run_store, ← h]
  | clearEvpnNeighbors => rfl
  | _ => cases h

/-- What an operation achieves is in the part it is about. -/
theorem Achieved.congr {op : Operation} {c c' : Configuration} (h : op.Achieved c) (hsame : op.part.Same c c') :
    op.Achieved c' := by
  have hneighbors : ∀ {a : String}, Part.neighbors.Same c c' → a ∈ c.bgpNeighbors → a ∈ c'.bgpNeighbors := by
    intro a hset ha
    rw [show c'.bgpNeighbors = c.bgpNeighbors from hset]
    exact ha
  cases op with
  | configureLoopback name ip =>
    obtain ⟨donor, hrecord⟩ := h
    exact ⟨donor, Eq.trans hsame hrecord⟩
  | configureNeighbor neighbor => exact hneighbors hsame h
  | configureNonClosEvpnNeighbor address => exact hneighbors hsame h
  | configureRouterId routerId => exact ⟨h.1, Eq.trans hsame h.2⟩
  | clearEvpnNeighbors => trivial
  | configureL2Mtu | configureIpMtu | configureAnycastGateway | configureNumbered | configureUnnumbered
  | configureRouteMap | configureBgp | configureNonClosBgp | configureMacAndArp | createEvpnInstance
  | createOverlayGateway | persist => exact Eq.trans hsame h
  | _ => cases h

end Operation

end FabricProvision

import FabricProvision.Proofs.Device.Faults
import FabricProvision.Proofs.Device.Refused
import FabricProvision.Proofs.Provision.DataPlane
import FabricProvision.Proofs.Provision.Switches

/-!
# Removal of data-plane neighbors

A partner is removed from the L2 EVPN neighbors of a member if the member has one of its addresses among its neighbors.
The member is asked for all its neighbors, the ones of BGP and those of L2 EVPN, but the removal is about the latter and
is refused if neither address is one of them.  So a member that has an address of the partner as a neighbor of BGP only
reports a failure, although there is nothing to remove (`DataPlaneNode.plainNeighbor_refused`).  Every other member
reports none, and in any case the partner is gone afterwards and nothing else has changed
(`DataPlaneNode.remove_outcome`).
-/

namespace FabricProvision

open Std (ExtTreeSet)
open Dialogue Operation

namespace DataPlaneNode

variable (m : DataPlaneNode) {d : Device}

/-- One of the partner's addresses is in the set. -/
def Among (s : ExtTreeSet String) : Prop := m.peerIp ∈ s ∨ m.peerLoopbackIp ∈ s

instance (s : ExtTreeSet String) : Decidable (m.Among s) := inferInstanceAs (Decidable (_ ∨ _))

/-- One of the partner's addresses is a neighbor, be it of BGP or of L2 EVPN. -/
def Known (c : Configuration) : Prop := m.Among c.bgpNeighbors ∨ m.Among c.l2EvpnNeighbors

instance (c : Configuration) : Decidable (m.Known c) := inferInstanceAs (Decidable (_ ∨ _))

/-- The configuration without the partner. -/
def unpaired (c : Configuration) : Configuration :=
  { c with l2EvpnNeighbors := (c.l2EvpnNeighbors.erase m.peerIp).erase m.peerLoopbackIp }

/-- The operation that removes the partner. -/
def removeOperation : Operation := .unconfigureL2EvpnNeighbor m.peerIp m.peerLoopbackIp

/-- The refusal to remove a partner that is not there. -/
def refusal : Failure where
  operation := "Unconfigure Data Plane Cluster"
  host := m.host
  cause := .step (.rejected m.removeOperation.name (Rejection.notConfigured s!"L2 EVPN neighbor {m.peerIp}").message)

theorem mem_unpaired {c : Configuration} {a : String} :
    a ∈ (m.unpaired c).l2EvpnNeighbors ↔ a ∈ c.l2EvpnNeighbors ∧ a ≠ m.peerIp ∧ a ≠ m.peerLoopbackIp := by
  simp only [unpaired, ExtTreeSet.mem_erase, ne_eq, Std.LawfulEqOrd.compare_eq_iff_eq]
  grind

theorem apply_removeOperation (c : Configuration) :
    m.removeOperation.apply.run.run c =
      (if m.Among c.l2EvpnNeighbors then .ok .ok else .error (.notConfigured s!"L2 EVPN neighbor {m.peerIp}"),
        m.unpaired c) := by
  have hpresent : (c.l2EvpnNeighbors.contains m.peerIp || (c.l2EvpnNeighbors.erase m.peerIp).contains m.peerLoopbackIp) =
      decide (m.Among c.l2EvpnNeighbors) := by
    rw [Bool.eq_iff_iff, decide_eq_true_iff]
    simp only [Bool.or_eq_true, ExtTreeSet.contains_iff_mem, ExtTreeSet.mem_erase, ne_eq,
      Std.LawfulEqOrd.compare_eq_iff_eq, Among]
    grind
  show (acknowledge (removeL2EvpnNeighbor m.peerIp m.peerLoopbackIp)).run.run c = _
  rw [run_acknowledge, run_removeL2EvpnNeighbor, run_require, hpresent]
  by_cases hamong : m.Among c.l2EvpnNeighbors
  · rw [if_pos hamong, decide_eq_true hamong]
    rfl
  · rw [if_neg hamong, decide_eq_false hamong]
    rfl

/-- Where the partner is not there, its removal is refused, so it leaves everything as it is. -/
theorem unpaired_of_not_among {c : Configuration} (h : ¬ m.Among c.l2EvpnNeighbors) : m.unpaired c = c := by
  have hrefused := m.apply_removeOperation c
  rw [if_neg h] at hrefused
  calc m.unpaired c = (m.removeOperation.apply.run.run c).2 := by rw [hrefused]
    _ = c := apply_of_refused c (congrArg Prod.fst hrefused)

/-- A device that is asked for its neighbors answers with those of both kinds. -/
theorem contains_neighbors (c : Configuration) :
    ((c.bgpNeighbors ∪ c.l2EvpnNeighbors).toList.contains m.peerIp ||
      (c.bgpNeighbors ∪ c.l2EvpnNeighbors).toList.contains m.peerLoopbackIp) = true ↔ m.Known c := by
  simp only [Bool.or_eq_true, List.contains_iff_mem, ExtTreeSet.mem_toList, ExtTreeSet.mem_union_iff, Known, Among]
  grind

/-- The device once the partner was removed, if it is known. -/
def severed (d : Device) : Device :=
  let asked := d.record .getNeighbors
  if m.Known d.configuration then
    { asked.record m.removeOperation with configuration := m.unpaired d.configuration }
  else asked

theorem severed_of_known (h : m.Known d.configuration) :
    m.severed d =
      { (d.record .getNeighbors).record m.removeOperation with configuration := m.unpaired d.configuration } :=
  if_pos h

theorem severed_of_not_known (h : ¬ m.Known d.configuration) : m.severed d = d.record .getNeighbors :=
  if_neg h

/-- Nothing else changes. -/
theorem severed_eq (d : Device) :
    m.severed d = { d with journal := (m.severed d).journal, configuration := m.unpaired d.configuration } := by
  by_cases hknown : m.Known d.configuration
  · rw [m.severed_of_known hknown]
    rfl
  · rw [m.severed_of_not_known hknown, m.unpaired_of_not_among fun hamong => hknown (.inr hamong)]
    rfl

theorem configuration_severed (d : Device) : (m.severed d).configuration = m.unpaired d.configuration :=
  congrArg Device.configuration (m.severed_eq d)

theorem run_perform_removeOperation (h : d.failing = ∅) :
    (perform m.host m.removeOperation).run Device.adapter d =
      (if m.Among d.configuration.l2EvpnNeighbors then .ok ⟨⟩ else .error m.refusal.cause,
        { d.record m.removeOperation with configuration := m.unpaired d.configuration }) := by
  have hop : m.removeOperation ≠ .getClusterStatus := nofun
  rw [run_perform, Device.execute_of_faultless h hop, m.apply_removeOperation]
  by_cases hamong : m.Among d.configuration.l2EvpnNeighbors
  · rw [if_pos hamong, if_pos hamong]
    rfl
  · rw [if_neg hamong, if_neg hamong]
    rfl

/-- A device that shows no fault refuses only to remove what is not there. -/
theorem run_remove (h : d.Faultless) :
    m.remove.run Device.adapter d =
      (if m.Among d.configuration.bgpNeighbors ∧ ¬ m.Among d.configuration.l2EvpnNeighbors then [m.refusal] else [],
        m.severed d) := by
  have hasked : Device.adapter.execute m.host .getNeighbors d =
      (.ok (.neighbors (d.configuration.bgpNeighbors ∪ d.configuration.l2EvpnNeighbors).toList), d.record .getNeighbors) :=
    Device.execute_of_faultless h.operations nofun
  have hsent : (perform m.host (.unconfigureL2EvpnNeighbor m.peerIp m.peerLoopbackIp)).run Device.adapter
      (d.record .getNeighbors) =
        (if m.Among d.configuration.l2EvpnNeighbors then .ok ⟨⟩ else .error m.refusal.cause,
          { (d.record .getNeighbors).record m.removeOperation with configuration := m.unpaired d.configuration }) :=
    m.run_perform_removeOperation (d := d.record .getNeighbors) h.operations
  unfold remove
  rw [Device.run_session_of_login h.login, run_step, run_bind, run_query, hasked]
  dsimp only [Response.toNeighbors]
  by_cases hknown : m.Known d.configuration
  · rw [if_pos ((m.contains_neighbors _).2 hknown), m.severed_of_known hknown, hsent]
    by_cases hamong : m.Among d.configuration.l2EvpnNeighbors
    · rw [if_pos hamong, if_neg fun hplain => hplain.2 hamong]
    · rw [if_neg hamong, if_pos ⟨hknown.resolve_right hamong, hamong⟩]
      rfl
  · rw [if_neg fun hcontains => hknown ((m.contains_neighbors _).1 hcontains), m.severed_of_not_known hknown,
      if_neg fun hplain => hknown (.inl hplain.1)]
    rfl

/-- The removal of a partner from a device that shows no fault: it is reported as a failure exactly if the device has
an address of the partner among its neighbors of BGP but none among those of L2 EVPN.  Afterwards neither address is an
L2 EVPN neighbor, and nothing but these neighbors and the journal of this device has changed. -/
theorem remove_outcome {n : Network} (hd : n.device? m.host = some d) (h : d.Faultless) :
    (m.remove.run Network.adapter n).1 =
      (if m.Among d.configuration.bgpNeighbors ∧ ¬ m.Among d.configuration.l2EvpnNeighbors then [m.refusal] else []) ∧
    ∃ d' : Device,
      (m.remove.run Network.adapter n).2 = n.setDevice m.host d' ∧
      d' = { d with
        journal := d'.journal
        configuration := { d.configuration with l2EvpnNeighbors := d'.configuration.l2EvpnNeighbors } } ∧
      ∀ a, a ∈ d'.configuration.l2EvpnNeighbors ↔
        a ∈ d.configuration.l2EvpnNeighbors ∧ a ≠ m.peerIp ∧ a ≠ m.peerLoopbackIp := by
  have hrun := Network.run_local m.stays_remove (Scope.local_on (by simp)) hd
  rw [hrun, m.run_remove h]
  refine ⟨rfl, m.severed d, rfl, ?_, fun a => ?_⟩
  · rw [m.configuration_severed]
    exact m.severed_eq d
  · rw [m.configuration_severed]
    exact m.mem_unpaired

/-- The second leaf of a pair, as the first one has it. -/
def secondLeaf : DataPlaneNode where
  host := "leaf-1"
  peerIp := "10.20.20.1"
  peerLoopbackIp := "10.0.0.2"
  loopbackNumber := "1"
  peerAsn := 64513

/-- A first leaf that has the loopback of the second one as a neighbor of BGP. -/
def plainNeighbor : Network := (Network.ofHosts ["leaf-1"]).seed "leaf-1" { bgpNeighbors := ["10.0.0.2"] }

/-- The first leaf shows no fault and has nothing to remove, but refuses the removal. -/
theorem plainNeighbor_refused :
    (∃ d, plainNeighbor.device? secondLeaf.host = some d ∧ d.Faultless ∧
      ¬ secondLeaf.Among d.configuration.l2EvpnNeighbors) ∧
    (secondLeaf.remove.run Network.adapter plainNeighbor).1 = [secondLeaf.refusal] :=
  ⟨⟨_, rfl, by decide +kernel, by decide +kernel⟩, by decide +kernel⟩

/-- The same network once the second leaf was added. -/
def pairedNeighbor : Network := (secondLeaf.add.run Network.adapter plainNeighbor).2

/-- From there the second leaf can be removed, and it is a neighbor of BGP still. -/
theorem pairedNeighbor_removed :
    ∃ d d' : Device,
      pairedNeighbor.device? secondLeaf.host = some d ∧ d.Faultless ∧
      secondLeaf.remove.run Network.adapter pairedNeighbor = ([], pairedNeighbor.setDevice secondLeaf.host d') ∧
      "10.0.0.2" ∈ d'.configuration.bgpNeighbors ∧ "10.0.0.2" ∉ d'.configuration.l2EvpnNeighbors := by
  have hfound : ∃ d, pairedNeighbor.device? secondLeaf.host = some d ∧ d.Faultless ∧
      secondLeaf.Among d.configuration.l2EvpnNeighbors ∧ "10.0.0.2" ∈ d.configuration.bgpNeighbors :=
    ⟨_, rfl, by decide +kernel, by decide +kernel, by decide +kernel⟩
  obtain ⟨d, hd, hfaultless, hamong, hplain⟩ := hfound
  obtain ⟨hreported, d', hafter, hframe, hneighbors⟩ := secondLeaf.remove_outcome hd hfaultless
  refine ⟨d, d', hd, hfaultless, Prod.ext ?_ hafter, ?_, fun hmem => ((hneighbors _).1 hmem).2.2 rfl⟩
  · rw [hreported, if_neg fun h => h.2 hamong]
  · rw [hframe]
    exact hplain

end DataPlaneNode

end FabricProvision

import FabricProvision.Proofs.Provision.Formed
import FabricProvision.Proofs.Provision.Sent
import FabricProvision.Proofs.Provision.UpdateRuns

/-!
# Updating a cluster after failures

An update takes out what it replaces before it puts the new in place, so that it may stop with a VE without an
address, a cluster object without its partner, or one that is undeployed.  While it is under way
(`ClusterSpec.Underway`), the cluster object and the control VLANs still lead to the same names and the same VE,
and what the update leaves without faults does not change.  So it can be done once more from wherever it stopped
(`ClusterSpec.update_resumes`), unless it takes out ports: a port that is gone cannot be taken out again.
-/

namespace FabricProvision

open Dialogue Operation Step

namespace ClusterSpec

variable (c : ClusterSpec) (x : ClusterNode)

/-- An update of a node that had a configuration in the beginning is under way. -/
structure Underway (start cfg : Configuration) : Prop extends Alike start cfg where
  updated : c.updated x cfg = c.updated x start

variable {c x} {start cfg : Configuration}

namespace Underway

theorem refl (cfg : Configuration) : c.Underway x cfg cfg := ⟨alike_refl cfg, rfl⟩

variable (h : c.Underway x start cfg)

include h

/-! ### What an update changes -/

/-- The VE may have any address, since the update gives it another one. -/
private theorem ves (hset : c.updates.contains .remotePeerIp = true) (address : Option String) :
    c.Underway x start { cfg with ves := cfg.ves.insert (c.movedVe start) address } := by
  refine ⟨⟨h.controlVlans, h.cluster⟩, Eq.trans ?_ h.updated⟩
  have hmoved : c.moved x { cfg with ves := cfg.ves.insert (c.movedVe start) address } = c.moved x cfg := by
    have hve : c.movedVe { cfg with ves := cfg.ves.insert (c.movedVe start) address } = c.movedVe cfg := rfl
    simp only [moved, hset, if_true, setVeAddress, hve, h.toAlike.movedVe_eq, insert_insert]
  unfold ClusterSpec.updated
  rw [hmoved]
  rfl

/-- The cluster object may have any partner and need not be deployed. -/
private theorem partner (hset : c.updates.contains .peerIp = true) {object : ClusterObject}
    (hobject : cfg.clusterNamed? (c.updatedName start.cluster).1 (c.updatedName start.cluster).2 = some object)
    (peerIp : String) (deployed : Bool) :
    c.Underway x start { cfg with cluster := some { object with peerIp }, deployed } := by
  have hpartner := h.toAlike.partner c hobject peerIp deployed
  refine ⟨hpartner, Eq.trans ?_ h.updated⟩
  have htarget : c.target? cfg = some object := (h.toAlike.target?_eq c).trans hobject
  have htarget' : c.target? { cfg with cluster := some { object with peerIp }, deployed } =
      some { object with peerIp } := by
    rw [hpartner.target?_eq, clusterNamed?_partner hobject]
  have hve : c.movedVe { cfg with cluster := some { object with peerIp }, deployed } = c.movedVe cfg := by
    rw [hpartner.movedVe_eq, h.toAlike.movedVe_eq]
  simp only [ClusterSpec.updated, hset, if_true, htarget, htarget', moved, hve]
  split <;> rfl

/-- The port-channel to the partner may have what the update gives to it. -/
private theorem channels (hreached : c.updates.contains .peerIp = true → (c.target? start).isSome = true)
    {m : Std.ExtTreeMap String PortChannel} (hm : c.rechanneled x m = c.rechanneled x cfg.portChannels) :
    c.Underway x start { cfg with portChannels := m } := by
  refine ⟨⟨h.controlVlans, h.cluster⟩, Eq.trans ?_ h.updated⟩
  have hmoved : c.moved x { cfg with portChannels := m } = { c.moved x cfg with portChannels := m } := by
    unfold moved
    split <;> rfl
  unfold ClusterSpec.updated
  rw [hmoved]
  by_cases hset : c.updates.contains .peerIp = true
  · obtain ⟨object, hobject⟩ := Option.isSome_iff_exists.1 ((h.toAlike.isSome_target? c).trans (hreached hset))
    have hobject' : c.target? { cfg with portChannels := m } = some object := hobject
    simp only [hset, if_true, hobject, hobject', hm]
  · simp only [hset, hm]
    rfl

end Underway

/-! ### Whole updates of nodes -/

/-- An update that takes out no ports makes the change of the port-channel again. -/
private theorem rebundled_eq (hdelete : c.updates.contains .memberDelete = false) {p q : PortChannel}
    (h : c.Rebundles x p q) : c.rebundled x q = c.rebundled x p := by
  cases h with
  | add hset hport => simp only [rebundled, hset, if_true, set_insert_insertMany _ hport]
  | delete hset => exact absurd (hset.symm.trans hdelete) (by decide)
  | speed hset => simp only [rebundled, hset, if_true]

private theorem underway_moves (hdelete : c.updates.contains .memberDelete = false) {cfg' : Configuration}
    (h : c.Underway x start cfg) (hmoves : c.Moves x start cfg cfg') : c.Underway x start cfg' := by
  cases hmoves with
  | idle => exact h
  | ve hset address => exact h.ves hset address
  | partner hset hobject peerIp deployed => exact h.partner hset hobject peerIp deployed
  | channel hreached hp hq =>
    refine h.channels hreached ?_
    simp only [rechanneled, hp, Std.ExtTreeMap.getElem?_insert_self, insert_insert, rebundled_eq hdelete hq]

variable (c x)

private theorem restarts_updateOn (hdelete : c.updates.contains .memberDelete = false) :
    Device.Restarts (c.updateOn x) := by
  by_cases hset : c.updates.hasUpdate = true
  · have hafter : ∀ cfg, Configuration.after (c.updateOn x) cfg = c.updated x cfg := by
      intro cfg
      rw [c.after_updateOn x hdelete, if_pos hset]
    refine Device.restarts_of_maintains (R := c.Underway x) hafter Underway.refl (fun _ _ h => h.updated) fun start => ?_
    unfold updateOn
    rw [if_pos hset]
    exact Device.maintains_session (NodeWork.maintains_failures
      (maintains_update (underway_moves hdelete) fun _ h => h.toAlike))
  · -- An update that names no attribute does nothing.
    intro d
    unfold updateOn
    rw [if_neg hset]
    rfl

/-! ### Whole clusters -/

variable (polling : Polling)

/-- An update that takes out no ports, of a cluster whose nodes have different addresses, can be restarted:
whatever logins and operations were refused to a first run, a second run without faults leaves every device, its
journal apart, as a single run without faults would have left it. -/
theorem update_resumes (force : Bool) (hdistinct : c.hosts.Nodup)
    (hdelete : c.updates.contains .memberDelete = false) (n : Network) (faults : String → Faults) :
    let update := fun n => ((c.reconcile polling .update force).run Network.adapter n).2
    (update (update (n.withFaults faults)).repaired).quiet = (update n.repaired).quiet := by
  have hnodes : Network.Restarts (fanOut c.nodes c.updateOn) :=
    Network.restarts_fanOut hdistinct (fun x _ => ⟨_, c.stays_updateOn x, nodeScope_local x⟩)
      fun x _ => c.restarts_updateOn x hdelete
  exact hnodes.congr (c.quiet_updateAll polling) n faults

/-- The pair with other addresses between its leaves. -/
def renumbered : ClusterSpec :=
  { pair with
    nodes := [pairNode "leaf-1" "10.3.0.0/31" "10.3.0.1" "10.0.0.2",
      pairNode "leaf-2" "10.3.0.1/31" "10.3.0.0" "10.0.0.1"]
    updates := .peerIp ||| .remotePeerIp ||| .memberAdd ||| .speed }

/-- The first leaf refuses another partner, and the second one refuses the login. -/
def refusedPartner (host : String) : Faults :=
  if host = "leaf-1" then { failing := Std.ExtTreeSet.empty.insert "Configure Cluster Peer IP" }
  else { refusesLogin := true }

/-- The first run leaves an undeployed cluster object without a partner, and the old partner on the second leaf. -/
theorem pair_renumbered :
    let update := fun n => ((renumbered.reconcile {} .update false).run Network.adapter n).2
    (update (pairRun.2.withFaults refusedPartner)).At "leaf-1" (fun d => d.configuration.deployed = false ∧
        d.configuration.cluster = some ⟨"pair", 1, some 4090, "Port-channel", "64", ""⟩) ∧
      (update (pairRun.2.withFaults refusedPartner)).At "leaf-2" (fun d => d.configuration.cluster =
        some ⟨"pair", 1, some 4090, "Port-channel", "64", "10.2.0.0"⟩) ∧
      (update (update (pairRun.2.withFaults refusedPartner)).repaired).quiet = (update pairRun.2.repaired).quiet :=
  ⟨by decide +kernel, by decide +kernel,
    update_resumes renumbered {} false (by decide) (by decide) pairRun.2 refusedPartner⟩

end ClusterSpec

end FabricProvision

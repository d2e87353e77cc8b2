import FabricProvision.Proofs.Device.Apart
import FabricProvision.Proofs.Device.Removal
import FabricProvision.Proofs.Provision.Attributes
import FabricProvision.Proofs.Provision.Formed

/-!
# Deleting what was created

Deleting a cluster from a node takes away one object after the other, and ends with the first that is missing.  On a
node that has what it was to get none is missing, and all of it is taken away but the number of the node
(`ClusterSpec.deleteOn_of_formed`).  So where none of it was there before, creating the cluster and deleting it again
leaves the number alone (`ClusterSpec.delete_undoes_create`).
-/

namespace FabricProvision

open Std (ExtTreeMap ExtTreeSet)
open Dialogue Device Operation
open Network (At)

namespace ClusterSpec

variable (c : ClusterSpec) (x : ClusterNode)

/-! ### Nodes -/

/-- The configuration without what a node gets when the cluster is created on it; only its number is left. -/
def dismantled (cfg : Configuration) : Configuration :=
  { cfg with
    controlVlans := cfg.controlVlans.erase c.controlVlan
    ves := cfg.ves.erase c.controlVe
    portChannels := cfg.portChannels.erase x.peerInterface.name
    routes := cfg.routes.erase ⟨routeDestination x, x.peerIp⟩
    cluster := none
    deployed := false }

/-- A configuration that has nothing of what a node gets when the cluster is created on it, but maybe a number. -/
structure Gone (cfg : Configuration) : Prop where
  controlVlan : cfg.controlVlans[c.controlVlan]? = none
  controlVe : cfg.ves[c.controlVe]? = none
  portChannel : cfg.portChannels[x.peerInterface.name]? = none
  route : ⟨routeDestination x, x.peerIp⟩ ∉ cfg.routes
  cluster : cfg.cluster = none
  deployed : cfg.deployed = false

theorem gone_dismantled (cfg : Configuration) : c.Gone x (c.dismantled x cfg) where
  controlVlan := ExtTreeMap.getElem?_erase_self
  controlVe := ExtTreeMap.getElem?_erase_self
  portChannel := ExtTreeMap.getElem?_erase_self
  route := by simp [dismantled]
  cluster := rfl
  deployed := rfl

variable {c x} {cfg : Configuration} {d : Device}

/-- Where nothing of it was there, dismantling what was established leaves the number of the node. -/
theorem dismantled_established (h : c.Gone x cfg) :
    c.dismantled x (c.established x cfg) = { cfg with nodeId := some x.nodeId } := by
  simp only [dismantled, established, erase_insert, erase_of_getElem? h.controlVlan, erase_of_getElem? h.controlVe,
    erase_of_getElem? h.portChannel, set_erase_insert h.route, ← h.cluster, ← h.deployed]

/-- On a node that has what it was to get, nothing that is to be deleted is missing. -/
theorem achieved?_delete (hports : x.connectingPorts.Nodup) (h : c.Formed x cfg) :
    (NodeWork.sendAll x.host (c.deleteSteps x)).achieved? cfg = some (c.dismantled x cfg) := by
  obtain ⟨p, hchannel, -, hmembers⟩ := h.portChannel
  obtain ⟨members, htaken⟩ : ∃ members, takeOut x.connectingPorts p.members = some members :=
    takeOut_of_nodup hports hmembers
  have hobject : cfg.clusterNamed? c.name c.id = some (c.object x) := by
    simp [Configuration.clusterNamed?, h.cluster, object, ClusterObject.isNamed, Option.filter]
  -- The configurations in between, up to that in which only the peer port-channel is left.
  let undeployed : Configuration := { cfg with cluster := none, deployed := false }
  let unbound : Configuration :=
    { undeployed with controlVlans := cfg.controlVlans.insert c.controlVlan none }
  let unrouted : Configuration :=
    { unbound with
      ves := cfg.ves.erase c.controlVe
      routes := cfg.routes.erase ⟨routeDestination x, x.peerIp⟩ }
  let unplugged : Configuration :=
    { unrouted with controlVlans := unbound.controlVlans.erase c.controlVlan }
  have hunbind : (deleteControlVe c.controlVlan c.controlVe).apply.run.run undeployed = (.ok .ok, unbound) :=
    apply_deleteControlVe h.controlVlan
  have hve : (deleteVe c.controlVe).apply.run.run unbound =
      (.ok .ok, { unbound with ves := cfg.ves.erase c.controlVe }) := by
    rw [apply_deleteVe, if_pos]
    exact ExtTreeMap.contains_eq_isSome_getElem?.trans (by rw [h.controlVe]; rfl)
  have hroute : (deconfigureRoute (routeDestination x) x.peerIp).apply.run.run
      { unbound with ves := cfg.ves.erase c.controlVe } = (.ok .ok, unrouted) := by
    rw [apply_deconfigureRoute, if_pos (ExtTreeSet.mem_iff_contains.1 h.route)]
  have hvlan : (deleteControlVlan c.controlVlan).apply.run.run unrouted = (.ok .ok, unplugged) := by
    rw [apply_deleteControlVlan, if_pos]
    exact ExtTreeMap.contains_insert_self
  have hemptied : (deletePortChannel x.peerInterface.name).apply.run.run
      { unplugged with portChannels := cfg.portChannels.insert x.peerInterface.name { p with members } } =
        (.ok .ok, c.dismantled x cfg) := by
    rw [apply_deletePortChannel, if_pos ExtTreeMap.contains_insert_self]
    simp only [unplugged, unrouted, unbound, undeployed, erase_insert]
    rfl
  have hthere : unplugged.portChannels[x.peerInterface.name]? = some p := hchannel
  rw [deleteSteps]
  simp only [List.append_assoc, List.cons_append, List.nil_append]
  refine (NodeWork.achieved?_sendAll_of_ok (by simp) (apply_deleteCluster hobject)).trans ?_
  refine (NodeWork.achieved?_sendAll_of_ok (by simp) hunbind).trans ?_
  refine (NodeWork.achieved?_sendAll_of_ok (by simp) hve).trans ?_
  refine (NodeWork.achieved?_sendAll_of_ok (by simp) hroute).trans ?_
  refine (NodeWork.achieved?_sendAll_of_ok (by simp) hvlan).trans ?_
  refine (achieved?_takeOut _ _ hthere).trans ?_
  rw [htaken]
  refine (NodeWork.achieved?_sendAll_of_ok (by simp) hemptied).trans ?_
  split
  · rfl
  · exact NodeWork.achieved?_sendAll_of_ok (by simp) rfl

/-- A device that refuses nothing, and has what it was to get, gives it back without a failure. -/
theorem deleteOn_of_formed (hports : x.connectingPorts.Nodup) (hd : d.Faultless) (h : c.Formed x d.configuration) :
    ((c.deleteOn x).run adapter d).1 = [] ∧
      ((c.deleteOn x).run adapter d).2.quiet = { d.quiet with configuration := c.dismantled x d.configuration } := by
  rw [deleteOn, run_session_of_login hd.login]
  exact NodeWork.failures_of_achieved? hd.login hd.operations (achieved?_delete hports h)

/-! ### Whole clusters -/

variable (c x) in
theorem stays_deleteOn : (c.deleteOn x).Stays (Scope.alone x.host) :=
  stays_session rfl (NodeWork.stays_failures (NodeWork.failsWithin_sendAll fun _ _ h =>
    ⟨rfl, (c.part_of_deleteSteps x h).2⟩))

variable {n : Network} {polling : Polling}

/-- Creation without a failure establishes the cluster on each of its nodes, which are different hosts. -/
theorem established_of_create (hn : n.Unoverridden) (hne : c.nodes ≠ [])
    (hclean : ((c.create polling false).run Network.adapter n).1 = []) :
    let n' := ((c.create polling false).run Network.adapter n).2
    c.hosts.Nodup ∧ ∀ x ∈ c.nodes, ∃ d d', n.device? x.host = some d ∧ n'.device? x.host = some d' ∧
      d'.quiet = { d.quiet with configuration := c.established x d.configuration } := by
  intro n'
  have hdone : c.Done polling n' := c.brings_create polling n trivial hclean
  have hdistinct : c.hosts.Nodup :=
    (perm_of_done hdone (hn.run _) hne).nodup_iff.1 (n'.nodup_clusterHosts c.name c.id)
  obtain ⟨hreports, hnodes, -⟩ := Network.run_fanOut_distinct (List.pairwise_map.1 hdistinct)
    (fun x _ => ⟨c.createScope x, c.stays_createOn x, c.createScope_local x⟩) n
  have hrun : (c.create polling false).run Network.adapter n = _ := c.run_create polling hdone.size
  have hcreated : ((fanOut c.nodes c.createOn).run Network.adapter n).1 = [] := by
    by_contra hnot
    rw [hrun, if_neg hnot] at hclean
    exact hnot hclean
  -- The polls in the end change nothing.
  have hquiet : n'.quiet = ((fanOut c.nodes c.createOn).run Network.adapter n).2.quiet := by
    show ((c.create polling false).run Network.adapter n).2.quiet = _
    rw [hrun, if_pos hcreated]
    exact c.quiet_pollMembers polling _
  refine ⟨hdistinct, fun x hx => ?_⟩
  have hx' : ((c.createOn x).run Network.adapter n).1 = [] :=
    List.flatMap_eq_nil_iff.1 (hreports.symm.trans hcreated) x hx
  obtain ⟨d, hd, -⟩ := Network.device_of_session hx'
  rw [Network.run_local (c.stays_createOn x) (c.createScope_local x) hd] at hx'
  obtain ⟨hlogin, haccepts⟩ := accepts_of_createOn hx'
  have hleft : (n'.device? x.host).map Device.quiet =
      some { d.quiet with configuration := c.established x d.configuration } := by
    rw [← Network.device?_quiet, hquiet, Network.device?_quiet, hnodes x hx, hd]
    exact congrArg some (createOn_of_accepts hlogin haccepts).2
  obtain ⟨d', hd', hquiet'⟩ := Option.map_eq_some_iff.1 hleft
  exact ⟨d, d', hd, hd', hquiet'⟩

/-- Deletion undoes creation.  A cluster that was created without a failure is deleted without one if its nodes refuse
nothing by then, and nothing of it is left on them.  A node that had nothing of it before the creation has the
configuration from before, but for its number. -/
theorem delete_undoes_create (c : ClusterSpec) (polling : Polling) (force : Bool) {n : Network} (hn : n.Unoverridden)
    (hne : c.nodes ≠ []) (hports : ∀ x ∈ c.nodes, x.connectingPorts.Nodup)
    (hclean : ((c.reconcile polling .create false).run Network.adapter n).1 = []) (faults : String → Faults)
    (hfaults : ∀ x ∈ c.nodes, faults x.host = {}) :
    let created := ((c.reconcile polling .create false).run Network.adapter n).2
    let deleted := (c.reconcile polling .delete force).run Network.adapter (created.withFaults faults)
    deleted.1 = [] ∧ ∀ x ∈ c.nodes, ∃ d d', n.device? x.host = some d ∧ deleted.2.device? x.host = some d' ∧
      c.Gone x d'.configuration ∧
      (c.Gone x d.configuration → d'.configuration = { d.configuration with nodeId := some x.nodeId }) := by
  intro created deleted
  obtain ⟨hdistinct, hestablished⟩ := established_of_create hn hne hclean
  let before (x : ClusterNode) (e : Device) : Prop :=
    e.Faultless ∧ ∃ d, n.device? x.host = some d ∧ e.configuration = c.established x d.configuration
  let after (x : ClusterNode) (e : Device) : Prop :=
    ∃ d, n.device? x.host = some d ∧ e.configuration = c.dismantled x (c.established x d.configuration)
  have hbefore : ∀ x ∈ c.nodes, (created.withFaults faults).At x.host (before x) := by
    intro x hx
    obtain ⟨d, d', hd, hd', hquiet⟩ := hestablished x hx
    refine ⟨d'.withFaults {}, ?_, ⟨rfl, rfl⟩, d, hd, (quiet_parts hquiet).2.2⟩
    rw [Network.device?_withFaults, show created.device? x.host = some d' from hd', hfaults x hx]
    rfl
  have hlocal : ∀ x ∈ c.nodes, ∀ e, before x e →
      ((c.deleteOn x).run adapter e).1 = [] ∧ after x ((c.deleteOn x).run adapter e).2 := by
    rintro x hx e ⟨hfaultless, d, hd, hcfg⟩
    have hformed : c.Formed x e.configuration := hcfg ▸ c.formed_established x d.configuration
    obtain ⟨hreport, hquiet⟩ := deleteOn_of_formed (hports x hx) hfaultless hformed
    exact ⟨hreport, d, hd, (quiet_parts hquiet).2.2.trans (by rw [hcfg])⟩
  obtain ⟨hreport, hafter, -⟩ := Network.run_fanOut_local (List.pairwise_map.1 hdistinct)
    (fun x _ => ⟨_, c.stays_deleteOn x, Scope.alone_local x.host⟩) hlocal hbefore
  refine ⟨hreport, fun x hx => ?_⟩
  obtain ⟨d', hd', d, hd, hcfg⟩ := hafter x hx
  refine ⟨d, d', hd, hd', ?_, fun hgone => ?_⟩
  · rw [hcfg]
    exact c.gone_dismantled x _
  · rw [hcfg, dismantled_established hgone]

/-- The pair leaves nothing on its first leaf but a number. -/
theorem pair_deleted :
    pairRun.1 = [] ∧
      ((pair.reconcile {} .delete false).run Network.adapter (pairRun.2.withFaults fun _ => {})).1 = [] ∧
      ((pair.reconcile {} .delete false).run Network.adapter (pairRun.2.withFaults fun _ => {})).2.At "leaf-1"
        (·.configuration = { nodeId := some 1 }) := by
  have hclean : pairRun.1 = [] := by decide +kernel
  have hn : (Network.ofHosts ["leaf-1", "leaf-2", "leaf-3"]).Unoverridden := by decide +kernel
  have hnew : (Network.ofHosts ["leaf-1", "leaf-2", "leaf-3"]).device? "leaf-1" = some {} := rfl
  obtain ⟨hreport, hdeleted⟩ := delete_undoes_create pair {} false hn (by decide) (by decide) hclean (fun _ => {})
    fun _ _ => rfl
  obtain ⟨d, d', hd, hd', -, hrestored⟩ := hdeleted _ (List.mem_cons_self ..)
  cases hnew.symm.trans hd
  exact ⟨hclean, hreport, d', hd', hrestored ⟨rfl, rfl, rfl, by simp, rfl, rfl⟩⟩

end ClusterSpec

end FabricProvision

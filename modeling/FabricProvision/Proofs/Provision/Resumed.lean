import FabricProvision.Proofs.Device.Invariants
import FabricProvision.Proofs.Provision.Formed
import FabricProvision.Proofs.Provision.Undisturbed

/-!
# Creating a cluster after failures

Creating a cluster may stop on each node after any step.  What it leaves without faults is known for every
configuration (`ClusterSpec.created`), and each of its operations, carried out or not, leaves a configuration from
which the same is reached (`ClusterSpec.created_apply`).  So creation starts over from whatever was left
(`ClusterSpec.create_resumes`).
-/

namespace FabricProvision

open Std (ExtTreeMap ExtTreeSet)
open Dialogue Operation Step

namespace ClusterSpec

variable (c : ClusterSpec) (x : ClusterNode)

/-- What creation leaves on a node without faults.  A node without a port-channel to its partner gets nothing but
its number and the control VLAN, and one that is in another cluster stays there. -/
def created (cfg : Configuration) : Configuration :=
  if x.peerInterface.kind = .portChannel then
    match cfg.cluster.filter fun o => !o.isNamed c.name c.id with
    | none => c.established x cfg
    | some _ => c.prepared x cfg
  else bindControlVlan c.controlVlan c.controlVe { cfg with nodeId := some x.nodeId }

private theorem after_createOn (cfg : Configuration) : Configuration.after (c.createOn x) cfg = c.created x cfg := by
  rw [createOn, Configuration.after_session, Configuration.after_failures]
  show ((NodeWork.sendAll x.host (c.createSteps x)).outcome cfg).2 = _
  unfold created
  split
  · rename_i hkind
    rw [c.createSteps_eq x hkind, (NodeWork.outcome_sends (fun y hy => (c.part_of_createSends x y hy).2) x.host cfg).1]
    rcases hcluster : cfg.cluster.filter (fun o => !o.isNamed c.name c.id) with _ | other
    · rw [c.carryOut_create x hcluster]
      simp only [hcluster]
    · have hprepared : (c.prepared x cfg).cluster = cfg.cluster := rfl
      rw [c.run_prepare, run_carryOut_cons, apply_createCluster_of_occupied (hprepared ▸ hcluster)]
      simp only [hcluster]
  · rename_i hkind
    -- The two operations before the port-channel are never rejected.
    simp only [createSteps, peerInterfaceSteps, hkind, if_false]
    rfl

/-! ### Operations of creation -/

section absorbed

variable {c x} {cfg cfg' : Configuration} (hkind : x.peerInterface.kind = .portChannel)

include hkind

private theorem created_of_prepared (h : c.prepared x cfg' = c.prepared x cfg) : c.created x cfg' = c.created x cfg := by
  have hcluster : cfg'.cluster = cfg.cluster := by
    have hprepared : (c.prepared x cfg').cluster = (c.prepared x cfg).cluster := by rw [h]
    exact hprepared
  have hestablished : c.established x cfg' = c.established x cfg :=
    congrArg (fun p : Configuration => { p with cluster := some (c.object x), deployed := true }) h
  simp only [created, hkind, if_true, hcluster, h, hestablished]

/-- On a node that is in no other cluster, creation overwrites the cluster object. -/
private theorem created_of_free {o : ClusterObject} {deployed : Bool}
    (hfree : cfg.cluster.filter (fun o => !o.isNamed c.name c.id) = none) (hnamed : o.isNamed c.name c.id = true) :
    c.created x { cfg with cluster := some o, deployed } = c.created x cfg := by
  have hfree' : (some o).filter (fun o => !o.isNamed c.name c.id) = none := by simp [Option.filter, hnamed]
  simp only [created, hkind, if_true, hfree, hfree']
  rfl

private theorem created_createCluster :
    c.created x ((createCluster c.name c.id portChannelKind x.peerInterface.name x.peerIp).apply.run.run cfg).2 =
      c.created x cfg := by
  rcases hcluster : cfg.cluster.filter (fun o => !o.isNamed c.name c.id) with _ | other
  · rw [apply_createCluster_of_free hcluster]
    exact created_of_free hkind hcluster (by simp [ClusterObject.isNamed])
  · rw [apply_createCluster_of_occupied hcluster]

private theorem created_configureCluster :
    c.created x ((configureCluster (c.binding x)).apply.run.run cfg).2 = c.created x cfg := by
  rcases hcluster : cfg.clusterNamed? (c.binding x).name (c.binding x).id with _ | o
  · rw [apply_configureCluster_of_absent hcluster]
  · rw [apply_configureCluster_of_named hcluster]
    obtain ⟨hsome, hnamed⟩ := Option.filter_eq_some_iff.1 hcluster
    have hnamed : o.isNamed c.name c.id = true := hnamed
    have hfree : cfg.cluster.filter (fun o => !o.isNamed c.name c.id) = none := by
      simp [hsome, Option.filter, hnamed]
    exact created_of_free hkind hfree hnamed

omit hkind in
private theorem prepared_createControlVlan :
    c.prepared x (bindControlVlan c.controlVlan c.controlVe cfg) = c.prepared x cfg := by
  simp only [prepared, established, bindControlVlan, insert_insert, insertIfNew_insert]

omit hkind in
private theorem prepared_setPortChannel :
    c.prepared x (setPortChannel x.peerInterface.name x.peerInterface.speed cfg) = c.prepared x cfg := by
  simp only [prepared, established, setPortChannel, insert_insert, ExtTreeMap.getD_insert_self]
  rfl

omit hkind in
private theorem prepared_addMember {port : String} (hport : port ∈ x.connectingPorts) :
    c.prepared x ((addMember port x.peerInterface.name x.peerInterface.speed).apply.run.run cfg).2 =
      c.prepared x cfg := by
  simp only [apply, changePortChannel, run_acknowledge, Step.run_bind, run_get]
  rcases hchannel : cfg.portChannels[x.peerInterface.name]? with _ | p
  · rfl
  · have hthere : cfg.portChannels.getD x.peerInterface.name {} = p := by
      rw [ExtTreeMap.getD_eq_getD_getElem?, hchannel, Option.getD_some]
    simp only [run_modify, prepared, established, bundled, insert_insert, ExtTreeMap.getD_insert_self,
      set_insert_insertMany _ hport, hthere]

/-- Whether it is carried out or rejected, an operation of creation leaves a node on which creation leads to the
same as before. -/
private theorem created_apply {y : String × Operation} (hy : y ∈ c.createSends x) :
    c.created x (y.2.apply.run.run cfg).2 = c.created x cfg := by
  simp only [createSends, List.mem_append, List.mem_cons, List.mem_map, List.not_mem_nil, or_false] at hy
  rcases hy with ((rfl | rfl | rfl) | ⟨port, hport, rfl⟩) | rfl | rfl | rfl | rfl
  · exact created_of_prepared hkind rfl
  · exact created_of_prepared hkind prepared_createControlVlan
  · exact created_of_prepared hkind prepared_setPortChannel
  · exact created_of_prepared hkind (prepared_addMember hport)
  · refine created_of_prepared hkind ?_
    show c.prepared x (setVeAddress c.controlVe x.remotePeerIp cfg) = c.prepared x cfg
    simp only [prepared, established, setVeAddress, insert_insert]
  · refine created_of_prepared hkind ?_
    show c.prepared x { cfg with routes := cfg.routes.insert ⟨routeDestination x, x.peerIp⟩ } = c.prepared x cfg
    simp only [prepared, established, set_insert_insert]
  · exact created_createCluster hkind
  · exact created_configureCluster hkind

end absorbed

/-- Whatever is refused to it, creation on a node leaves one on which creation leads to the same as before. -/
private theorem maintains_createSteps (start : Configuration) :
    (NodeWork.sendAll x.host (c.createSteps x)).Maintains (fun cfg => c.created x cfg = c.created x start)
      fun _ => True := by
  by_cases hkind : x.peerInterface.kind = .portChannel
  · rw [c.createSteps_eq x hkind]
    refine NodeWork.maintains_sendAll fun operation op hop => ?_
    obtain ⟨y, hy, hsend⟩ := List.mem_map.1 hop
    cases hsend
    exact ⟨(c.part_of_createSends x y hy).2, fun cfg h => (created_apply hkind hy).trans h⟩
  · -- The work ends at the port-channel, with two operations that creation overwrites then, too.
    have hsteps : NodeWork.sendAll x.host (c.createSteps x) = (do
        NodeWork.send x.host "Configure Node Id" (.configureNodeId x.nodeId)
        NodeWork.send x.host "Create Cluster Control VLAN"
          (.createControlVlan c.controlVlan c.controlVe "MCTClusterControlVlan")
        throw ⟨"Configure Cluster Peer Interface", x.host,
          .precondition "Cluster peer-interface needs to be a port-channel"⟩) := by
      simp only [createSteps, peerInterfaceSteps, hkind, if_false]
      rfl
    have hnodeId : ∀ cfg : Configuration, c.created x { cfg with nodeId := some x.nodeId } = c.created x cfg := by
      intro cfg
      simp only [created, hkind, if_false]
    have hvlan : ∀ cfg, c.created x (bindControlVlan c.controlVlan c.controlVe cfg) = c.created x cfg := by
      intro cfg
      simp only [created, hkind, if_false, bindControlVlan, insert_insert, insertIfNew_insertIfNew]
    rw [hsteps]
    refine NodeWork.Maintains.bind (Q := fun _ => True) (NodeWork.maintains_send (by simp)
      (fun cfg h => (hnodeId cfg).trans h) fun _ _ _ _ => trivial) fun _ _ => ?_
    exact NodeWork.Maintains.bind (Q := fun _ => True) (NodeWork.maintains_send (by simp)
      (fun cfg h => (hvlan cfg).trans h) fun _ _ _ _ => trivial) fun _ _ => NodeWork.maintains_throw

private theorem restarts_createOn : Device.Restarts (c.createOn x) :=
  Device.restarts_of_maintains (R := fun cfg cfg' => c.created x cfg' = c.created x cfg) (c.after_createOn x)
    (fun _ => rfl) (fun _ _ h => h) fun start =>
      Device.maintains_session (NodeWork.maintains_failures (c.maintains_createSteps x start))

/-! ### Whole clusters -/

variable (polling : Polling)

/-- Polling changes nothing but journals, so that a cluster is created once its nodes are. -/
private theorem quiet_create (hsize : c.nodes.length ≤ maxNodes) (n : Network) :
    ((c.create polling false).run Network.adapter n).2.quiet =
      ((fanOut c.nodes c.createOn).run Network.adapter n).2.quiet := by
  rw [c.run_create polling hsize]
  split
  · exact c.quiet_pollMembers polling _
  · rfl

private theorem restarts_create (hdistinct : c.hosts.Nodup) : Network.Restarts (c.create polling false) := by
  by_cases hsize : c.nodes.length ≤ maxNodes
  · have hnodes : Network.Restarts (fanOut c.nodes c.createOn) :=
      Network.restarts_fanOut hdistinct (fun x _ => ⟨_, c.stays_createOn x, c.createScope_local x⟩)
        fun x _ => c.restarts_createOn x
    exact hnodes.congr (c.quiet_create polling hsize)
  · -- A cluster with too many nodes is not created at all.
    have hrun : ∀ n, ((c.create polling false).run Network.adapter n).2 = n := by
      intro n
      unfold create
      rw [if_pos (by omega)]
      rfl
    intro n faults after
    simp only [after, hrun, Network.repaired_withFaults]

/-- Creation of a cluster whose nodes have different addresses can be restarted: whatever logins and operations
were refused to a first run, a second run without faults leaves every device, its journal apart, as a single run
without faults would have left it, with or without failures. -/
theorem create_resumes (hdistinct : c.hosts.Nodup) (n : Network) (faults : String → Faults) :
    let create := fun n => ((c.reconcile polling .create false).run Network.adapter n).2
    (create (create (n.withFaults faults)).repaired).quiet = (create n.repaired).quiet :=
  c.restarts_create polling hdistinct n faults

/-- The first leaf of a pair refuses to bind the cluster object, and the second one refuses the login. -/
def refusals (host : String) : Faults :=
  if host = "leaf-1" then { failing := ExtTreeSet.empty.insert "Configure Cluster" } else { refusesLogin := true }

/-- The first run leaves a cluster object without a control VLAN, and nothing on the second leaf. -/
theorem pair_resumed :
    let n := Network.ofHosts ["leaf-1", "leaf-2"]
    let create := fun n => ((pair.reconcile {} .create false).run Network.adapter n).2
    (create (n.withFaults refusals)).At "leaf-1" (fun d => d.configuration.cluster =
        some ⟨"pair", 1, none, "Port-channel", "64", "10.2.0.1"⟩) ∧
      (create (n.withFaults refusals)).At "leaf-2" (fun d => d.configuration.cluster = none) ∧
      (create (create (n.withFaults refusals)).repaired).quiet = (create n.repaired).quiet :=
  ⟨by decide +kernel, by decide +kernel, create_resumes pair {} (by decide) _ refusals⟩

end ClusterSpec

end FabricProvision

import FabricProvision.Proofs.Provision.ClusterSchedules
import FabricProvision.Proofs.Provision.Repeat
import FabricProvision.Proofs.Provision.SwitchSchedules

/-!
# Running again under any schedule

All stages of a repeatable request are confluent, and with them its runs (`FabricRequest.confluent_configure`).  So
what a second run does under the schedules in list order, it does under every other schedule: it leaves everything as
the first run did (`FabricRequest.configure_again_scheduled`).

Two nodes of a management cluster on one device are the exception.  The device gets the number of the node that has its
turn last, so that a second run may change it (`FabricRequest.twofold_again`).
-/

namespace FabricProvision

open Dialogue Network

namespace FabricRequest

variable {polling : Polling} {r : FabricRequest} {save : Bool}

/-- No cluster to be created has two nodes on one device. -/
def DistinctNodes (r : FabricRequest) : Prop := ∀ c ∈ r.clusters.create, c.nodes.Pairwise fun x y => x.host ≠ y.host

/-! ### The stages -/

/-- The only work on clusters is to create them, without force. -/
private theorem confluent_reconcileClusters (hr : r.Repeatable) (hnodes : r.DistinctNodes) :
    (reconcileClustersConcurrently polling false r.clusters).Confluent adapter Network.quiet := by
  have hnothing : ∀ work : ClusterSpec → Concurrent (List Failure),
      (Concurrent.fanOut [] work).Confluent adapter Network.quiet := by
    intro work x y hx hy
    rw [Concurrent.eq_of_mayBe_fanOut_nil hx, Concurrent.eq_of_mayBe_fanOut_nil hy]
    exact Concurrent.confluent_only shows_quiet _ _ _ rfl rfl
  have hcreate : (Concurrent.fanOut r.clusters.create (createClusterConcurrently polling false)) =
      Concurrent.fanOut r.clusters.create fun c => c.createConcurrently polling false := by
    refine Concurrent.fanOut_congr fun c hc => ?_
    unfold createClusterConcurrently
    rw [hr.unforced c hc]
    rfl
  unfold reconcileClustersConcurrently
  rw [hr.deletes, hr.updates, hcreate]
  exact Concurrent.confluent_stop (hnothing _) (Concurrent.confluent_stop (Concurrent.confluent_only shows_quiet _)
    (ClusterSpec.confluent_createAll polling (List.pairwise_map.1 hr.distinctClusters) hnodes))

/-- Sessions with different switches. -/
private theorem confluent_sessions {switches : List SwitchSpec} (hsub : switches.Sublist r.switches)
    (hhosts : r.DistinctHosts) {work : SwitchSpec → Dialogue (List Failure)} {parts : Part → Prop}
    (hparts : ¬ parts .cluster) {operation : String}
    (hwork : ∀ s, (work s).Within (Scope.on s.host parts) fun failures =>
      ∀ f ∈ failures, f.operation = operation ∧ f.host = s.host) :
    (Concurrent.fanOut switches fun s => .only (work s)).Confluent adapter Network.quiet :=
  (Concurrent.runsLike_each (hhosts.sublist hsub) (fun s _ => ⟨_, (hwork s).stays, Scope.local_on hparts⟩)
    fun s _ n f hf => ((hwork s).run adapter n f hf).2).confluent

private theorem confluent_finish (hhosts : r.DistinctHosts) :
    (r.finishConcurrently false save).Confluent adapter Network.quiet := by
  have hgateways : ∀ principals, (Concurrent.fanOut (r.overlaySwitches principals) fun s =>
      .only (s.configureOverlayGateway false)).Confluent adapter Network.quiet := fun principals =>
    confluent_sessions List.filter_sublist hhosts (by simp) fun s => s.within_configureOverlayGateway false
  have hsaving := confluent_sessions (List.Sublist.refl _) hhosts (by simp) SwitchSpec.within_persist
  cases save
  · exact Concurrent.confluent_after shows_quiet fun principals =>
      Concurrent.confluent_append (hgateways principals) (Concurrent.confluent_only shows_quiet (pure []))
  · exact Concurrent.confluent_after shows_quiet fun principals =>
      Concurrent.confluent_append (hgateways principals) hsaving

/-! ### The runs -/

/-- Runs of a repeatable request without failures do not depend on the schedule. -/
theorem confluent_configure (hr : r.Repeatable) (hnodes : r.DistinctNodes) :
    (r.configureConcurrently polling false save).Confluent adapter Network.quiet :=
  have hhosts := distinctHosts_of_nodup hr.hosts
  Concurrent.confluent_stop (confluent_configureSwitches hhosts hr.dataPlane)
    (Concurrent.confluent_stop (confluent_reconcileClusters hr hnodes) (confluent_finish hhosts))

/-- Whatever the schedules of the two runs are, a second run leaves everything as the first one did, journals apart. -/
theorem configure_again_scheduled (polling : Polling) (r : FabricRequest) (save : Bool) (n : Network)
    (hr : r.Repeatable) (hnodes : r.DistinctNodes) {x y : Dialogue (List Failure)}
    (hx : (r.configureConcurrently polling false save).MayBe x)
    (hy : (r.configureConcurrently polling false save).MayBe y) (hclean : (x.run adapter n).1 = []) :
    let first := x.run adapter n
    let second := y.run adapter first.2
    second.1 = [] ∧ second.2.quiet = first.2.quiet := by
  intro first second
  have hlist := r.mayBe_configure polling false save
  obtain ⟨hlistClean, hfirst⟩ := confluent_configure hr hnodes x _ hx hlist n n rfl hclean
  obtain ⟨hagain, hsame⟩ := configure_again polling r save n hr hlistClean
  obtain ⟨hsecond, hquiet⟩ := confluent_configure hr hnodes _ y hlist hy _ first.2 hfirst.symm hagain
  exact ⟨hsecond, hquiet.symm.trans (hsame.trans hfirst.symm)⟩

/-- The pair of leaves is such a request.  Its first run is in list order; in the second one the leaves take turns. -/
theorem leafPair_again :
    let turning : Dialogue (List Failure) := do
      let errors ← weave [0, 1, 0, 1] (leafPair.switches.map fun s => s.configure leafPair.topology false)
      if !errors.isEmpty then return errors
      let errors ← reconcileClusters {} false leafPair.clusters
      if !errors.isEmpty then return errors
      leafPair.finish false true
    leafPair.Repeatable ∧ leafPair.DistinctNodes ∧ leafPairRun.1 = [] ∧
      (turning.run adapter leafPairRun.2).1 = [] ∧ (turning.run adapter leafPairRun.2).2.quiet = leafPairRun.2.quiet := by
  intro turning
  have hrepeatable : leafPair.Repeatable :=
    ⟨by decide, by decide, by decide, by decide, by decide, rfl, rfl, by decide, by decide⟩
  have hnodes : leafPair.DistinctNodes := by
    unfold DistinctNodes
    decide
  have hclean : leafPairRun.1 = [] := by decide +kernel
  have hturning : (leafPair.configureConcurrently {} false true).MayBe turning :=
    Concurrent.mayBe_stop (Concurrent.mayBe_weave _ fun s _ => s.mayBe_configure leafPair.topology false)
      (Concurrent.mayBe_stop (mayBe_reconcileClusters {} false leafPair.clusters) (leafPair.mayBe_finish false true))
  exact ⟨hrepeatable, hnodes, hclean, configure_again_scheduled {} leafPair true (Network.ofHosts ["leaf-1", "leaf-2"])
    hrepeatable hnodes (leafPair.mayBe_configure {} false true) hturning hclean⟩

/-! ### Two nodes on one device -/

/-- A node of a cluster on the first leaf. -/
def nodeOnLeaf (nodeId : UInt32) : ClusterNode :=
  { host := "leaf-1", nodeId, remotePeerIp := "10.2.0.0/31", peerIp := "10.2.0.1", peerLoopbackIp := "10.0.0.2",
    peerInterface := ⟨.portChannel, "64", "10000"⟩, connectingPorts := ["0/47"] }

/-- A cluster with two nodes on the first leaf. -/
def twofoldCluster : ClusterSpec :=
  { name := "pair", id := 1, controlVlan := 4090, controlVe := 4090, nodes := [nodeOnLeaf 1, nodeOnLeaf 2] }

/-- The cluster is to be created. -/
def twofold : FabricRequest where
  name := "dc"
  switches := []
  clusters := { create := [twofoldCluster] }

/-- The first leaf, which says that it is there twice. -/
def twofoldNetwork : Network :=
  (Network.ofHosts ["leaf-1"]).setClusterStatus "leaf-1" ⟨[⟨"leaf-1", true⟩, ⟨"leaf-1", false⟩]⟩

/-- The run in which the second node is done before the first one begins. -/
def twofoldReversed : Dialogue (List Failure) := do
  let errors ← twofold.configureSwitches false
  if !errors.isEmpty then return errors
  let errors ← fanOut [twofoldCluster] fun c =>
    c.createWith (pure []) (weave (List.replicate 20 1) (c.nodes.map c.createOn)) (c.pollMembers {})
  if !errors.isEmpty then return errors
  twofold.finish false false

private theorem mayBe_twofoldReversed : (twofold.configureConcurrently {} false false).MayBe twofoldReversed := by
  have hcreate : (Concurrent.fanOut [twofoldCluster] (createClusterConcurrently {} false)).MayBe
      (fanOut [twofoldCluster] fun c =>
        c.createWith (pure []) (weave (List.replicate 20 1) (c.nodes.map c.createOn)) (c.pollMembers {})) := by
    refine Concurrent.mayBe_fanOut fun c hc => ?_
    rw [List.mem_singleton.1 hc]
    exact ClusterSpec.mayBe_createWith {} false rfl (Concurrent.mayBe_weave _ fun _ _ => rfl)
      (twofoldCluster.mayBe_pollMembers {})
  have hclusters : (reconcileClustersConcurrently {} false twofold.clusters).MayBe (do
      let errors ← fanOut [] fun c : ClusterSpec => c.reconcile {} .delete false
      if !errors.isEmpty then return errors
      let errors ← collect []
      if !errors.isEmpty then return errors
      fanOut [twofoldCluster] fun c =>
        c.createWith (pure []) (weave (List.replicate 20 1) (c.nodes.map c.createOn)) (c.pollMembers {})) :=
    Concurrent.mayBe_stop (Concurrent.mayBe_fanOut nofun) (Concurrent.mayBe_stop (Concurrent.mayBe_collect .nil) hcreate)
  exact Concurrent.mayBe_stop (twofold.mayBe_configureSwitches false)
    (Concurrent.mayBe_stop hclusters (twofold.mayBe_finish false false))

/-- Both runs are without failures, but the second one changes the number of the device from 2 to 1. -/
theorem twofold_again :
    let first := (twofold.configure {} false false).run adapter twofoldNetwork
    let second := twofoldReversed.run adapter first.2
    twofold.Repeatable ∧ (twofold.configureConcurrently {} false false).MayBe (twofold.configure {} false false) ∧
      (twofold.configureConcurrently {} false false).MayBe twofoldReversed ∧ first.1 = [] ∧ second.1 = [] ∧
      second.2.quiet ≠ first.2.quiet := by
  intro first second
  have hfirst : (first.2.device? "leaf-1").map (·.configuration.nodeId) = some (some 2) := by decide +kernel
  have hsecond : (second.2.device? "leaf-1").map (·.configuration.nodeId) = some (some 1) := by decide +kernel
  refine ⟨⟨by decide, by decide, by decide, by decide, by decide, rfl, rfl, by decide, by decide⟩,
    twofold.mayBe_configure {} false false, mayBe_twofoldReversed, by decide +kernel, by decide +kernel, fun hsame => ?_⟩
  have hnumber : ∀ n : Network, (n.quiet.device? "leaf-1").map (·.configuration.nodeId) =
      (n.device? "leaf-1").map (·.configuration.nodeId) := fun n => by rw [device?_quiet, Option.map_map]; rfl
  rw [← hnumber, hsame, hnumber, hfirst] at hsecond
  cases hsecond

end FabricRequest

end FabricProvision

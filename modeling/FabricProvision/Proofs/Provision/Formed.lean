import FabricProvision.Proofs.Provision.Clusters
import FabricProvision.Proofs.Provision.Polls

/-!
# What creating a management cluster forms

A cluster that was created without a failure is formed: its nodes are different hosts, each of them has what it
was to get (`ClusterSpec.Formed`), and they are all the hosts of the network that have deployed the cluster
(`ClusterSpec.create_forms`).  The nodes are only asked how many members they see and whether these are intended;
that the members are exactly the nodes follows by counting.
-/

namespace FabricProvision

open Dialogue Device
open Network (At)

namespace ClusterSpec

variable (c : ClusterSpec) (polling : Polling)

/-! ### Nodes -/

/-- A configuration that has what a node gets when the cluster is created on it. -/
structure Formed (x : ClusterNode) (cfg : Configuration) : Prop where
  nodeId : cfg.nodeId = some x.nodeId
  controlVlan : cfg.controlVlans[c.controlVlan]? = some (some c.controlVe)
  controlVe : cfg.ves[c.controlVe]? = some (some x.remotePeerIp)
  portChannel : ∃ p, cfg.portChannels[x.peerInterface.name]? = some p ∧ p.speed = x.peerInterface.speed ∧
    ∀ port ∈ x.connectingPorts, port ∈ p.members
  route : ⟨routeDestination x, x.peerIp⟩ ∈ cfg.routes
  cluster : cfg.cluster = some (c.object x)
  deployed : cfg.deployed = true

theorem formed_established (x : ClusterNode) (cfg : Configuration) : c.Formed x (c.established x cfg) where
  nodeId := rfl
  controlVlan := Std.ExtTreeMap.getElem?_insert_self
  controlVe := Std.ExtTreeMap.getElem?_insert_self
  portChannel := by
    refine ⟨_, Std.ExtTreeMap.getElem?_insert_self, rfl, fun port hport => ?_⟩
    simp [bundled, Std.ExtTreeSet.mem_insertMany_list, hport]
  route := Std.ExtTreeSet.mem_insert_self
  cluster := rfl
  deployed := rfl

variable {c polling}

theorem Formed.hasDeployed {x : ClusterNode} {d : Device} (h : c.Formed x d.configuration) :
    Network.hasDeployed c.name c.id d = true := by
  simp [Network.hasDeployed, Configuration.clusterNamed?, h.cluster, h.deployed, object, ClusterObject.isNamed,
    Option.filter]

private theorem Settled.formed {x : ClusterNode} {d : Device} (h : c.Settled [x] d) : c.Formed x d.configuration := by
  have hsame : c.established x d.configuration = d.configuration := h.same
  rw [← hsame]
  exact c.formed_established x _

/-! ### Members -/

/-- The nodes of a cluster that is done are those that have deployed it. -/
theorem perm_of_done {n : Network} (h : c.Done polling n) (hn : n.Unoverridden) (hne : c.nodes ≠ []) :
    (n.clusterHosts c.name c.id).Perm c.hosts := by
  have hdeployed : ∀ x ∈ c.nodes, n.At x.host (Network.hasDeployed c.name c.id · = true) := by
    intro x hx
    obtain ⟨d, hd, hsettled⟩ := h.settled x hx
    exact ⟨d, hd, hsettled.deployed (List.ne_nil_of_mem (List.mem_filter.2 ⟨hx, by simp⟩))⟩
  -- One node's word is enough: it counts as many members as there are nodes, all of them intended.
  obtain ⟨x, hx⟩ := List.exists_mem_of_ne_nil _ hne
  obtain ⟨-, -, hfits⟩ := pollMembers_clean.1 h.polled x hx
  rw [Network.status_of_deployed hn (hdeployed x hx), ClusterStatus.fits_iff_perm] at hfits
  · rwa [Network.hosts_statusOf] at hfits
  · rw [Network.hosts_statusOf]
    exact n.nodup_clusterHosts c.name c.id

/-! ### Whole clusters -/

/-- With force the nodes are cleared first; apart from that the cluster is created as it is without. -/
theorem run_create_forced (polling : Polling) (hsize : c.nodes.length ≤ maxNodes) (n : Network) :
    let cleared := (c.clearAndPoll polling).run Network.adapter n
    let created := (c.create polling false).run Network.adapter cleared.2
    (c.create polling true).run Network.adapter n = (cleared.1 ++ created.1, created.2) := by
  intro cleared created
  have hcreated := c.run_create polling (n := cleared.2) hsize
  rw [c.create_forced polling hsize, run_bind, run_bind]
  unfold created
  rw [hcreated]
  generalize (fanOut c.nodes c.createOn).run Network.adapter cleared.2 = r
  obtain ⟨errors, n'⟩ := r
  cases errors with
  | nil =>
    simp only [List.isEmpty_nil, if_true, run_bind, run_pure]
    rfl
  | cons f rest =>
    simp only [List.isEmpty_cons, Bool.false_eq_true, if_false, run_pure, reduceCtorEq]
    rfl

/-- With or without force, a cluster is done if creating it reports no failure. -/
theorem brings_reconcile_create (force : Bool) :
    Brings Network.adapter (fun _ => True) (c.reconcile polling .create force) (c.Done polling) := by
  intro n _ hclean
  by_cases hsize : c.nodes.length ≤ maxNodes
  · cases force with
    | false => exact c.brings_create polling n trivial hclean
    | true =>
      have hrun := run_create_forced polling hsize n
      unfold reconcile at hclean ⊢
      dsimp only at hclean ⊢
      rw [hrun] at hclean ⊢
      exact c.brings_create polling _ trivial (List.append_eq_nil_iff.1 hclean).2
  · unfold reconcile create at hclean
    dsimp only at hclean
    rw [if_pos (by omega)] at hclean
    cases hclean

/-- Creation without failures is sound.  The nodes are different hosts and two at most, each of them has what it was
to get, and no other device of the whole network has deployed the cluster. -/
theorem create_forms (c : ClusterSpec) (polling : Polling) (force : Bool) {n : Network} (hn : n.Unoverridden)
    (hne : c.nodes ≠ []) (hclean : ((c.reconcile polling .create force).run Network.adapter n).1 = []) :
    let n' := ((c.reconcile polling .create force).run Network.adapter n).2
    c.hosts.Nodup ∧ c.nodes.length ≤ 2 ∧ (∀ x ∈ c.nodes, n'.At x.host fun d => c.Formed x d.configuration) ∧
      ∀ host, n'.At host (Network.hasDeployed c.name c.id · = true) ↔ host ∈ c.hosts := by
  intro n'
  have hdone : c.Done polling n' := brings_reconcile_create force n trivial hclean
  have hperm := perm_of_done hdone (hn.run _) hne
  have hnodup : c.hosts.Nodup := hperm.nodup_iff.1 (n'.nodup_clusterHosts c.name c.id)
  refine ⟨hnodup, hdone.size, fun x hx => ?_, fun host => ?_⟩
  · obtain ⟨d, hd, hsettled⟩ := hdone.settled x hx
    rw [c.nodesAt_distinct (List.pairwise_map.1 hnodup) hx] at hsettled
    exact ⟨d, hd, hsettled.formed⟩
  · rw [← Network.mem_clusterHosts]
    exact hperm.mem_iff

/-- A node of the pair below. -/
def pairNode (host address partner partnerLoopback : String) : ClusterNode where
  host := host
  nodeId := 1
  remotePeerIp := address
  peerIp := partner
  peerLoopbackIp := partnerLoopback
  peerInterface := ⟨.portChannel, "64", "10000"⟩
  connectingPorts := ["0/47", "0/48"]

/-- A cluster of two leaves. -/
def pair : ClusterSpec where
  name := "pair"
  id := 1
  controlVlan := 4090
  controlVe := 4090
  nodes := [pairNode "leaf-1" "10.2.0.0/31" "10.2.0.1" "10.0.0.2",
    pairNode "leaf-2" "10.2.0.1/31" "10.2.0.0" "10.0.0.1"]

/-- The creation of the pair, where there is another switch. -/
def pairRun : List Failure × Network :=
  (pair.reconcile {} .create false).run Network.adapter (Network.ofHosts ["leaf-1", "leaf-2", "leaf-3"])

/-- The third switch is not in the cluster. -/
theorem pair_formed :
    pairRun.1 = [] ∧ pairRun.2.At "leaf-1" (fun d => d.configuration.cluster =
        some ⟨"pair", 1, some 4090, "Port-channel", "64", "10.2.0.1"⟩) ∧
      ¬ pairRun.2.At "leaf-3" (Network.hasDeployed "pair" 1 · = true) := by
  have hclean : pairRun.1 = [] := by decide +kernel
  have hn : (Network.ofHosts ["leaf-1", "leaf-2", "leaf-3"]).Unoverridden := by decide +kernel
  obtain ⟨-, -, hformed, hmembers⟩ := create_forms pair {} false hn (by decide) hclean
  obtain ⟨d, hd, hd'⟩ := hformed (pairNode "leaf-1" "10.2.0.0/31" "10.2.0.1" "10.0.0.2") (List.mem_cons_self ..)
  exact ⟨hclean, ⟨d, hd, hd'.cluster⟩, fun h => absurd ((hmembers "leaf-3").1 h) (by decide)⟩

end ClusterSpec

end FabricProvision

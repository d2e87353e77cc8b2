import FabricProvision.Proofs.Provision.Swept

/-!
# Recovery from leftovers

A cluster is created with force whatever its nodes held before: another cluster, port-channels with other members,
control VLANs and VEs of other clusters (`ClusterSpec.create_recovers`).  Clearing goes on whatever fails on the way,
but the two things that creation depends on never fail: the cluster object that is there is deleted under its own
name, and the peer port-channel is deleted last.
-/

namespace FabricProvision

open Std (ExtTreeMap ExtTreeSet)
open Dialogue Device Operation Step
open Network (At)

/-! ### Clearing a node -/

namespace ClusterSpec

variable (c : ClusterSpec) (x : ClusterNode) {d : Device}

/-- A device on which nothing is in the way of creating the cluster on a node. -/
private structure Cleared (x : ClusterNode) (d : Device) : Prop where
  login : d.refusesLogin = false
  failing : d.failing = ∅
  cluster : d.configuration.cluster = none
  portChannel : d.configuration.portChannels[x.peerInterface.name]? = none

private theorem clearOn_cleared (h : Clearable d) : Cleared x ((c.clearOn x).run adapter d).2 := by
  have hswept := c.swept_clearOn x h
  obtain ⟨hlogin, hfailing, -⟩ := quiet_parts (Device.quiet_run (c.clearOn x) d)
  exact ⟨hlogin.trans h.1, hfailing.trans (ExtTreeSet.isEmpty_iff.1 h.2.1), hswept.cluster,
    hswept.portChannels _ (.inl rfl)⟩

/-! ### Creating on a cleared node -/

/-- The peer port-channel has the speed and exactly the ports of a node. -/
def Bundled (x : ClusterNode) (cfg : Configuration) : Prop :=
  ∃ p, cfg.portChannels[x.peerInterface.name]? = some p ∧ p.speed = x.peerInterface.speed ∧
    ∀ port, port ∈ p.members ↔ port ∈ x.connectingPorts

/-- A device on which the cluster is created on a node that was cleared. -/
private structure Recovered (c : ClusterSpec) (x : ClusterNode) (d : Device) : Prop where
  login : d.refusesLogin = false
  failing : d.failing = ∅
  formed : c.Formed x d.configuration
  bundled : Bundled x d.configuration

variable {c x}

private theorem createOn_recovered (hkind : x.peerInterface.kind = .portChannel) (h : Cleared x d) :
    ((c.createOn x).run adapter d).1 = [] ∧ c.Recovered x ((c.createOn x).run adapter d).2 := by
  have haccepts : c.Accepts x d := ⟨hkind, by simp [h.failing], by simp [h.cluster]⟩
  obtain ⟨hclean, hquiet⟩ := createOn_of_accepts h.login haccepts
  obtain ⟨hlogin, hfailing, hcfg⟩ := quiet_parts hquiet
  refine ⟨hclean, hlogin.trans h.login, hfailing.trans h.failing, ?_, ?_⟩
  · rw [hcfg]
    exact c.formed_established x d.configuration
  · rw [hcfg]
    refine ⟨bundled x {}, ?_, rfl, fun port => ?_⟩
    · have hnew : d.configuration.portChannels.getD x.peerInterface.name {} = {} := by
        rw [ExtTreeMap.getD_eq_getD_getElem?, h.portChannel]
        rfl
      simp only [established, hnew, ExtTreeMap.getElem?_insert_self]
    · simp [bundled, ExtTreeSet.mem_insertMany_list]

/-! ### Whole clusters -/

variable {n : Network} {polling : Polling}

private theorem clearAll_cleared (hdistinct : c.hosts.Nodup) (h : ∀ x ∈ c.nodes, n.At x.host Clearable) :
    let n' := (c.clearAll.run Network.adapter n).2
    (∀ x ∈ c.nodes, n'.At x.host (Cleared x)) ∧ ∀ other, other ∉ c.hosts → n'.device? other = n.device? other := by
  obtain ⟨hnodes, hothers⟩ := device?_clearAll hdistinct n
  refine ⟨fun x hx => ?_, hothers⟩
  obtain ⟨d, hd, hclearable⟩ := h x hx
  exact ⟨_, by rw [hnodes x hx, hd]; rfl, c.clearOn_cleared x hclearable⟩

private theorem Cleared.congr {x : ClusterNode} {d e : Device} (hquiet : d.quiet = e.quiet) (h : Cleared x d) :
    Cleared x e := by
  obtain ⟨hlogin, hfailing, hcfg⟩ := parts_of_quiet hquiet
  exact ⟨hlogin ▸ h.login, hfailing ▸ h.failing, hcfg ▸ h.cluster, hcfg ▸ h.portChannel⟩

/-- Nodes that were cleared are polled without a failure: each of them is alone. -/
private theorem polls_of_cleared (hn : n.Unoverridden) (hqueries : 0 < polling.queries)
    (h : ∀ x ∈ c.nodes, n.At x.host (Cleared x)) :
    ((fanOut c.nodes fun x => pollOn polling [x.host] x).run Network.adapter n).1 = [] := by
  refine pollAll_clean.2 fun x hx => ?_
  obtain ⟨d, hd, hcleared⟩ := h x hx
  refine ⟨hqueries, ⟨⟨d, hd, hcleared.login⟩, d, hd, by simp [hcleared.failing]⟩, ?_⟩
  rw [Network.status_of_free hn hd hcleared.cluster]
  simp [ClusterStatus.fits, Network.statusOf]

/-- Nodes on which the cluster was created are polled without a failure, if no other device has deployed it. -/
private theorem polls_of_recovered (hn : n.Unoverridden) (hqueries : 0 < polling.queries) (hdistinct : c.hosts.Nodup)
    (h : ∀ x ∈ c.nodes, n.At x.host (c.Recovered x))
    (hothers : ∀ host, host ∉ c.hosts → ¬ n.At host (Network.hasDeployed c.name c.id · = true)) :
    ((c.pollMembers polling).run Network.adapter n).1 = [] := by
  have hdeployed : ∀ x ∈ c.nodes, n.At x.host (Network.hasDeployed c.name c.id · = true) := fun x hx =>
    (h x hx).imp fun d hd => ⟨hd.1, hd.2.formed.hasDeployed⟩
  have hmembers : (n.clusterHosts c.name c.id).Perm c.hosts := by
    refine (List.perm_ext_iff_of_nodup (n.nodup_clusterHosts _ _) hdistinct).2 fun host => ?_
    rw [Network.mem_clusterHosts]
    constructor
    · intro hhost
      exact Classical.not_not.1 fun hnot => hothers host hnot hhost
    · intro hhost
      obtain ⟨x, hx, rfl⟩ := List.mem_map.1 hhost
      exact hdeployed x hx
  refine pollMembers_clean.2 fun x hx => ?_
  obtain ⟨d, hd, hrecovered⟩ := h x hx
  refine ⟨hqueries, ⟨⟨d, hd, hrecovered.login⟩, d, hd, by simp [hrecovered.failing]⟩, ?_⟩
  rw [Network.status_of_deployed hn (hdeployed x hx), ClusterStatus.fits_iff_perm]
  · rwa [Network.hosts_statusOf]
  · rw [Network.hosts_statusOf]
    exact n.nodup_clusterHosts c.name c.id

private theorem clearAndPoll_cleared (hn : n.Unoverridden) (hqueries : 0 < polling.queries)
    (hdistinct : c.nodes.Pairwise fun x y => x.host ≠ y.host)
    (h : ∀ x ∈ c.nodes, n.At x.host Clearable) :
    let r := (c.clearAndPoll polling).run Network.adapter n
    r.1 = [] ∧ (∀ x ∈ c.nodes, r.2.At x.host (Cleared x)) ∧
      ∀ other, other ∉ c.hosts → r.2.At other (Network.hasDeployed c.name c.id · = true) →
        n.At other (Network.hasDeployed c.name c.id · = true) := by
  intro r
  obtain ⟨hcleared, hframe⟩ := clearAll_cleared (List.pairwise_map.2 hdistinct) h
  have hr : r = (fanOut c.nodes fun x => pollOn polling [x.host] x).run Network.adapter
      (c.clearAll.run Network.adapter n).2 := by
    show (c.clearAndPoll polling).run Network.adapter n = _
    rw [clearAndPoll, Dialogue.run_bind]
  have hquiet : r.2.quiet = (c.clearAll.run Network.adapter n).2.quiet := by
    rw [hr, quiet_pollAll]
  refine ⟨hr ▸ polls_of_cleared (hn.run _) hqueries hcleared, fun x hx => ?_, fun other hother hdeployed => ?_⟩
  · exact (hcleared x hx).congr hquiet.symm fun _ _ => Cleared.congr
  · obtain ⟨d, hd, hdeployed⟩ := hdeployed.congr hquiet fun d e hde hd =>
      (congrArg (Network.hasDeployed c.name c.id) hde).symm.trans hd
    refine ⟨d, ?_, hdeployed⟩
    rw [← hd, hframe other hother]

private theorem createNodes_recovered (hdistinct : c.nodes.Pairwise fun x y => x.host ≠ y.host)
    (hkind : ∀ x ∈ c.nodes, x.peerInterface.kind = .portChannel) (h : ∀ x ∈ c.nodes, n.At x.host (Cleared x)) :
    let r := (fanOut c.nodes c.createOn).run Network.adapter n
    r.1 = [] ∧ (∀ x ∈ c.nodes, r.2.At x.host (c.Recovered x)) ∧
      ∀ other, (∀ x ∈ c.nodes, x.host ≠ other) → r.2.device? other = n.device? other :=
  Network.run_fanOut_local hdistinct (fun x _ => ⟨c.createScope x, c.stays_createOn x, c.createScope_local x⟩)
    (fun x hx _ hd => createOn_recovered (hkind x hx) hd) h

/-- Forced creation recovers from any leftovers.  On nodes that refuse nothing, a cluster of two nodes at most is
created without a failure if any cluster object that is there has a name and no other device has deployed the
cluster.  Each node then has what it was to get, and the ports of its peer port-channel are exactly those it was to
get. -/
theorem create_recovers (c : ClusterSpec) (polling : Polling) {n : Network} (hn : n.Unoverridden)
    (hsize : c.nodes.length ≤ 2) (hdistinct : c.hosts.Nodup)
    (hkind : ∀ x ∈ c.nodes, x.peerInterface.kind = .portChannel)
    (hnodes : ∀ x ∈ c.nodes, n.At x.host Clearable)
    (hothers : ∀ host, host ∉ c.hosts → ¬ n.At host (Network.hasDeployed c.name c.id · = true))
    (htimeout : polling.interval.nanos ≤ polling.timeout.nanos) :
    let r := (c.reconcile polling .create true).run Network.adapter n
    r.1 = [] ∧ ∀ x ∈ c.nodes, r.2.At x.host fun d => c.Formed x d.configuration ∧ Bundled x d.configuration := by
  intro r
  have hqueries := Polling.queries_pos htimeout
  have hpairwise : c.nodes.Pairwise fun x y => x.host ≠ y.host := List.pairwise_map.1 hdistinct
  obtain ⟨hearly, hcleared, hclearedOthers⟩ := clearAndPoll_cleared hn hqueries hpairwise hnodes
  have hn' : ((c.clearAndPoll polling).run Network.adapter n).2.Unoverridden := hn.run _
  have hr : r = _ := run_create_forced polling hsize n
  rw [hearly, List.nil_append] at hr
  generalize ((c.clearAndPoll polling).run Network.adapter n).2 = n' at hcleared hclearedOthers hn' hr
  obtain ⟨hcreated, hrecovered, hframe⟩ := createNodes_recovered hpairwise hkind hcleared
  have hn'' : ((fanOut c.nodes c.createOn).run Network.adapter n').2.Unoverridden := hn'.run _
  have hrun : (c.create polling false).run Network.adapter n' = _ := c.run_create polling hsize
  rw [if_pos hcreated] at hrun
  rw [hrun] at hr
  generalize ((fanOut c.nodes c.createOn).run Network.adapter n').2 = n'' at hrecovered hframe hn'' hr
  -- The polls in the end change nothing.
  have hothers'' : ∀ host, host ∉ c.hosts → ¬ n''.At host (Network.hasDeployed c.name c.id · = true) := by
    rintro host hhost ⟨d, hd, hdeployed⟩
    rw [hframe host fun x hx heq => hhost (heq ▸ List.mem_map_of_mem hx)] at hd
    exact hothers host hhost (hclearedOthers host hhost ⟨d, hd, hdeployed⟩)
  have hpolls := polls_of_recovered hn'' hqueries hdistinct hrecovered hothers''
  have hquiet := Network.quiet_of_asking (c.stays_pollMembers polling) n''
  rw [hr]
  refine ⟨hpolls, fun x hx => ?_⟩
  obtain ⟨d, hd, hd'⟩ := hrecovered x hx
  have hat : n''.At x.host fun d => c.Formed x d.configuration ∧ Bundled x d.configuration :=
    ⟨d, hd, hd'.formed, hd'.bundled⟩
  exact hat.congr hquiet.symm fun d e hde hd => (parts_of_quiet hde).2.2 ▸ hd

/-- Three switches, of which the first is in another cluster that is bound to the control VLAN of the pair. -/
def leftovers : Network :=
  (Network.ofHosts ["leaf-1", "leaf-2", "leaf-3"]).seed "leaf-1"
    { cluster := some ⟨"old", 7, some 4090, "Ve", "4090", "10.9.9.9"⟩ }

/-- The forced creation of the pair on them. -/
def leftoversRun : List Failure × Network := (pair.reconcile {} .create true).run Network.adapter leftovers

/-- The first switch leaves the other cluster for the pair. -/
theorem leftovers_recovered :
    leftoversRun.1 = [] ∧ leftoversRun.2.At "leaf-1" fun d => d.configuration.cluster =
      some ⟨"pair", 1, some 4090, "Port-channel", "64", "10.2.0.1"⟩ := by
  have hhosts : leftovers.clusterHosts "pair" 1 = [] := by decide +kernel
  have hothers : ∀ host, host ∉ pair.hosts → ¬ leftovers.At host (Network.hasDeployed "pair" 1 · = true) := by
    intro host _ hdeployed
    rw [← Network.mem_clusterHosts, hhosts] at hdeployed
    cases hdeployed
  have hnodes : ∀ x ∈ pair.nodes, leftovers.At x.host Clearable := by decide +kernel
  obtain ⟨hclean, hrecovered⟩ := create_recovers pair {} (n := leftovers) (by decide +kernel) (by decide) (by decide)
    (by decide) hnodes hothers (by decide)
  obtain ⟨d, hd, hformed, -⟩ := hrecovered (pairNode "leaf-1" "10.2.0.0/31" "10.2.0.1" "10.0.0.2")
    (List.mem_cons_self ..)
  exact ⟨hclean, d, hd, hformed.cluster⟩

end ClusterSpec

end FabricProvision
